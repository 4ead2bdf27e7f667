import ClassSizes.Csv.Row

/-!
# Reading rows

The scanner is an automaton that is fed one byte at a time and says when a row is complete.  It
accepts more than `Csv.row` writes: rows end at `LF`, `CR` or `CR LF`, blank lines are passed
over, rows have any number of fields, and the last row needs no end.

A quote opens a quoted field only as the first byte of the field.  Inside, a doubled quote is one
quote and a single quote ends the quoting; whatever follows it in the field is taken as it is.

The place of a row is where the scanner stood when it began to look for it: one byte after the
row before it began to end, ahead of the line feed of a `CR LF` and of any blank lines.
-/

namespace ClassSizes

namespace Csv

/-- A place between two bytes of the input. -/
structure Place where
  /-- How many rows are complete. -/
  row : Nat := 0
  /-- One more than the number of line feeds that have been read. -/
  line : Nat := 1
  /-- How many bytes have been read. -/
  byte : Nat := 0
  deriving DecidableEq, Repr

/-- The place after one more byte. -/
def Place.advance (place : Place) (byte : UInt8) : Place :=
  { place with
    line := if byte = newLine then place.line + 1 else place.line
    byte := place.byte + 1 }

/-- A row as it was found: its fields without their quoting, and where the search for it began. -/
structure RawRow where
  fields : List Bytes
  place : Place
  deriving DecidableEq, Repr

/-- Where the scanner stands in a row. -/
inductive Mode where
  /-- Between rows. -/
  | between
  /-- At the beginning of a field. -/
  | fieldStart
  /-- In a field that is taken as it is. -/
  | bare
  /-- Between the quotes of a quoted field. -/
  | quoted
  /-- After a quote in a quoted field, which ends the quoting unless another quote follows. -/
  | quoteSeen
  deriving DecidableEq, Repr

/-- The state of the scanner. -/
structure Scanner where
  mode : Mode := .between
  /-- The bytes of the field under way, newest first. -/
  field : Bytes := []
  /-- The complete fields of the row under way, newest first. -/
  fields : List Bytes := []
  /-- Where the scanner stands. -/
  here : Place := {}
  /-- Where it began to look for the row under way. -/
  origin : Place := {}
  deriving DecidableEq, Repr

/-- Whether a byte ends a row. -/
def endsRow (byte : UInt8) : Bool :=
  byte == carriageReturn || byte == newLine

namespace Scanner

/-- Take a byte into the field under way. -/
def keep (scanner : Scanner) (mode : Mode) (byte : UInt8) : Scanner :=
  { scanner with mode, field := byte :: scanner.field }

/-- Complete the field under way. -/
def endField (scanner : Scanner) : Scanner :=
  { scanner with
    mode := .fieldStart, field := [], fields := scanner.field.reverse :: scanner.fields }

/-- The row whose last field is the one under way. -/
def currentRow (scanner : Scanner) : RawRow :=
  ⟨(scanner.field.reverse :: scanner.fields).reverse, scanner.origin⟩

/-- Complete the row under way; the search for the next one begins here. -/
def endRow (scanner : Scanner) : Scanner × Option RawRow :=
  let next := { scanner.here with row := scanner.here.row + 1 }
  ({ here := next, origin := next }, some scanner.currentRow)

/-- What a byte does outside quotes once the field has begun. -/
def feedBare (scanner : Scanner) (byte : UInt8) : Scanner × Option RawRow :=
  if byte = comma then (scanner.endField, none)
  else if endsRow byte then scanner.endRow
  else (scanner.keep .bare byte, none)

/-- What a byte does at the beginning of a field. -/
def feedFieldStart (scanner : Scanner) (byte : UInt8) : Scanner × Option RawRow :=
  if byte = quote then ({ scanner with mode := .quoted }, none)
  else scanner.feedBare byte

/-- Read one byte, and return the row that it completes. -/
def feed (scanner : Scanner) (byte : UInt8) : Scanner × Option RawRow :=
  let scanner := { scanner with here := scanner.here.advance byte }
  match scanner.mode with
  | .between => if endsRow byte then (scanner, none) else scanner.feedFieldStart byte
  | .fieldStart => scanner.feedFieldStart byte
  | .bare => scanner.feedBare byte
  | .quoted =>
    if byte = quote then ({ scanner with mode := .quoteSeen }, none)
    else (scanner.keep .quoted byte, none)
  | .quoteSeen =>
    if byte = quote then (scanner.keep .quoted byte, none) else scanner.feedBare byte

/-- The row that the end of the input completes. -/
def finish (scanner : Scanner) : Option RawRow :=
  if scanner.mode = .between then none else some scanner.currentRow

/-- The scanner after bytes that are passed over without being read as part of a row. -/
def skip (scanner : Scanner) (count : Nat) : Scanner :=
  { scanner with here := { scanner.here with byte := scanner.here.byte + count } }

end Scanner

/-- The byte order mark of UTF-8. -/
def byteOrderMark : Bytes := [0xEF, 0xBB, 0xBF]

end Csv

end ClassSizes
