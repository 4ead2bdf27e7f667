import ClassSizes.Decimal.Basic
import ClassSizes.Toml.Layout

/-!
# Strings and keys

A basic string stands in double quotes and has escapes; a literal string stands in single quotes
and has none.  Either may be tripled to run over several lines: then a line end right after the
opening quotes is dropped, line ends are read as `LF`, and up to two quotes may stand before the
closing three.  In a basic string over several lines a backslash at the end of a line drops the
line end and all blanks and line ends that follow.
-/

namespace ClassSizes

namespace Toml

/-- The character of a short escape. -/
def shortEscape? (character : Char) : Option Char :=
  match character with
  | 'b' => some '\x08'
  | 't' => some '\t'
  | 'n' => some '\n'
  | 'f' => some '\x0c'
  | 'r' => some '\r'
  | '"' => some '"'
  | '\\' => some '\\'
  | _ => none

/-- The character with the code point of some hexadecimal digits. -/
def codePoint? (digits : List Char) : Option Char := do
  let values ← digits.mapM (digitOf? 16)
  let value := values.foldl (fun value digit => value * 16 + digit) 0
  if value < 0xD800 ∨ (0xDFFF < value ∧ value < 0x110000) then some (Char.ofNat value) else none

/-- Read a basic string up to its closing quote; `read` is what has been read so far, newest
first. -/
def basicFrom (read : Text) : Reads Text
  | [] => none
  | '"' :: rest => some (read.reverse, rest)
  | '\\' :: 'u' :: a :: b :: c :: d :: rest =>
    match codePoint? [a, b, c, d] with
    | some character => basicFrom (character :: read) rest
    | none => none
  | '\\' :: 'U' :: a :: b :: c :: d :: e :: f :: g :: h :: rest =>
    match codePoint? [a, b, c, d, e, f, g, h] with
    | some character => basicFrom (character :: read) rest
    | none => none
  | '\\' :: mark :: rest =>
    match shortEscape? mark with
    | some character => basicFrom (character :: read) rest
    | none => none
  | character :: rest => if isPlain character then basicFrom (character :: read) rest else none

/-- Read a literal string up to its closing quote. -/
def literalFrom (read : Text) : Reads Text
  | [] => none
  | '\'' :: rest => some (read.reverse, rest)
  | character :: rest => if isPlain character then literalFrom (character :: read) rest else none

/-- Close a string over several lines: of the quotes after the closing three, up to two belong to
the string. -/
def closeLong (mark : Char) (read : Text) (rest : Text) : Text × Text :=
  let extra := min 2 (rest.takeWhile (· == mark)).length
  ((List.replicate extra mark ++ read).reverse, rest.drop extra)

/-- Read a literal string over several lines up to its closing quotes. -/
def longLiteralFrom (read : Text) : Reads Text
  | [] => none
  | '\'' :: '\'' :: '\'' :: rest => some (closeLong '\'' read rest)
  | '\n' :: rest => longLiteralFrom ('\n' :: read) rest
  | '\r' :: '\n' :: rest => longLiteralFrom ('\n' :: read) rest
  | character :: rest =>
    if isPlain character then longLiteralFrom (character :: read) rest else none

/-- Where the reading of a basic string over several lines stands with a backslash that may end its
line. -/
inductive Fold where
  /-- No such backslash matters. -/
  | off
  /-- Only blanks may follow, up to the end of the line. -/
  | waiting
  /-- Blanks and line ends are dropped. -/
  | dropping
  deriving DecidableEq, Repr

/-- Whether a text begins with a blank or a line end. -/
def beginsFold (text : Text) : Bool :=
  text.head?.any isSpace || (newline? text).isSome

/-- Read a basic string over several lines up to its closing quotes. -/
def longBasicFrom (read : Text) (fold : Fold) : Reads Text
  | [] => none
  | '\n' :: rest =>
    if fold = .off then longBasicFrom ('\n' :: read) .off rest
    else longBasicFrom read .dropping rest
  | '\r' :: '\n' :: rest =>
    if fold = .off then longBasicFrom ('\n' :: read) .off rest
    else longBasicFrom read .dropping rest
  | '"' :: '"' :: '"' :: rest => if fold = .waiting then none else some (closeLong '"' read rest)
  | '\\' :: 'u' :: a :: b :: c :: d :: rest =>
    match fold, codePoint? [a, b, c, d] with
    | .waiting, _ | _, none => none
    | _, some character => longBasicFrom (character :: read) .off rest
  | '\\' :: 'U' :: a :: b :: c :: d :: e :: f :: g :: h :: rest =>
    match fold, codePoint? [a, b, c, d, e, f, g, h] with
    | .waiting, _ | _, none => none
    | _, some character => longBasicFrom (character :: read) .off rest
  | '\\' :: tail =>
    if fold = .waiting then none
    else if beginsFold tail then longBasicFrom read .waiting tail
    else
      match tail with
      | [] => none
      | mark :: rest =>
        match shortEscape? mark with
        | some character => longBasicFrom (character :: read) .off rest
        | none => none
  | character :: rest =>
    if fold ≠ .off ∧ isSpace character then longBasicFrom read fold rest
    else if fold ≠ .waiting ∧ isPlain character then longBasicFrom (character :: read) .off rest
    else none

/-- The text without a line end at its front. -/
def dropNewline (text : Text) : Text :=
  (newline? text).getD text

/-- Read a string on one line. -/
def shortString? : Reads Text
  | '"' :: rest => basicFrom [] rest
  | '\'' :: rest => literalFrom [] rest
  | _ => none

/-- Read a string. -/
def string? : Reads Text
  | '"' :: '"' :: '"' :: rest => longBasicFrom [] .off (dropNewline rest)
  | '\'' :: '\'' :: '\'' :: rest => longLiteralFrom [] (dropNewline rest)
  | text => shortString? text

/-- Whether a character may stand in a key without quotes. -/
def isBareKey (character : Char) : Bool :=
  character.isAlphanum || character == '-' || character == '_'

/-- Read one part of a key. -/
def keyPart? (text : Text) : Option (Text × Text) :=
  match text with
  | '"' :: _ | '\'' :: _ => shortString? text
  | _ =>
    let key := text.takeWhile isBareKey
    if key = [] then none else some (key, text.dropWhile isBareKey)

/-- Read a key of at most so many parts, with points between them and blanks around each. -/
def key? : Nat → Reads (List Text)
  | 0, _ => none
  | parts + 1, text =>
    match keyPart? (skipSpace text) with
    | none => none
    | some (part, rest) =>
      match skipSpace rest with
      | '.' :: rest => (key? parts rest).map fun (others, rest) => (part :: others, rest)
      | rest => some ([part], rest)

/-- How many parts a key has at most. -/
def keyLimit : Nat := 79

end Toml

end ClassSizes
