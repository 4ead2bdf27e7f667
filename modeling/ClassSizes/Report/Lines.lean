import ClassSizes.Text.Sublist
import ClassSizes.Text.Utf8

/-!
# From pieces to lines

A report arrives as bytes and is cut at line feeds into *pieces*, each with the line feed that
ends it; the last piece may lack one.  A piece is decoded first, with invalid bytes dropped, and
then cut into lines: one line feed and then one carriage return are dropped from its end, and
every carriage return that is left ends a line.  So `LF`, `CR LF` and a lone `CR` all end lines,
and invalid bytes never reach across a line feed.
-/

namespace ClassSizes

/-- The byte that ends a piece. -/
def lineFeed : UInt8 := 10

namespace Report

/-- The lines of a decoded piece. -/
def linesOfText (text : Text) : List Text :=
  cutAt '\r' (dropEnd '\r' (dropEnd '\n' text))

/-- The lines of a piece; every piece has at least one. -/
def linesOfPiece (piece : Bytes) : List Text :=
  linesOfText (Utf8.decodeLossy piece)

end Report

end ClassSizes
