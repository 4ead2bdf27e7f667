import ClassSizes.Text.Reads

/-!
# The layout of a TOML document

Blanks, line ends and comments.  A line ends in `LF` or `CR LF`; a carriage return alone is not
allowed anywhere.  A comment runs to the end of its line and holds no control characters but tabs.
-/

namespace ClassSizes

namespace Toml

/-- Whether a character is a blank within a line. -/
def isSpace (character : Char) : Bool :=
  character == ' ' || character == '\t'

/-- Whether a character may stand in a comment or, quotes and backslashes apart, in a string. -/
def isPlain (character : Char) : Bool :=
  character == '\t' || (0x20 ≤ character.toNat && character.toNat ≤ 0x7E) ||
    0x80 ≤ character.toNat

/-- Pass over the blanks at the front of a text. -/
def skipSpace (text : Text) : Text :=
  text.dropWhile isSpace

/-- Read the end of a line. -/
def newline? : Text → Option Text
  | '\n' :: rest => some rest
  | '\r' :: '\n' :: rest => some rest
  | _ => none

/-- Pass over a comment, if there is one. -/
def skipComment : Text → Text
  | '#' :: rest => rest.dropWhile isPlain
  | text => text

/-- Read what may follow a statement on its line: blanks, a comment, and the end of the line or of
the document. -/
def lineEnd? (text : Text) : Option Text :=
  match skipComment (skipSpace text) with
  | [] => some []
  | rest => newline? rest

/-- Pass over blanks, line ends and comments; `inComment` says whether a comment is under way. -/
def skipLayoutFrom (inComment : Bool) : Text → Text
  | [] => []
  | '\n' :: rest => skipLayoutFrom false rest
  | '\r' :: '\n' :: rest => skipLayoutFrom false rest
  | character :: rest =>
    if inComment then
      if isPlain character then skipLayoutFrom true rest else character :: rest
    else if isSpace character then skipLayoutFrom false rest
    else if character = '#' then skipLayoutFrom true rest
    else character :: rest

/-- Pass over blanks, line ends and comments. -/
def skipLayout (text : Text) : Text :=
  skipLayoutFrom false text

end Toml

end ClassSizes
