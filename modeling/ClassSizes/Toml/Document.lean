import ClassSizes.Toml.Value

/-!
# Documents

A document is a list of statements, each on a line of its own: headers in single or double
brackets, and pairs of a key and a value.  Reading has two stages.  The first finds the statements
and knows only the grammar; the second grows the tree, and refuses statements that define
something twice.
-/

namespace ClassSizes

namespace Toml

/-- A line of a document that says something. -/
inductive Statement where
  /-- A header in single brackets. -/
  | table (header : List Text)
  /-- A header in double brackets. -/
  | element (header : List Text)
  | pair (key : List Text) (item : Item)

/-- Read a statement and the end of its line, in a document of length `fuel`. -/
def statement? (fuel : Nat) : Reads Statement
  | '[' :: '[' :: rest => do
    let (header, rest) ← key? keyLimit rest
    let rest ← lineEnd? (← literal? [']', ']'] rest)
    some (.element header, rest)
  | '[' :: rest => do
    let (header, rest) ← key? keyLimit rest
    let rest ← lineEnd? (← literal? [']'] rest)
    some (.table header, rest)
  | text => do
    let ((key, item), rest) ← pair? (value? fuel depthLimit) text
    let rest ← lineEnd? rest
    some (.pair key item, rest)

/-- Read statements up to the end of a document of the given length, passing over blank lines and
comments. -/
def statementsFrom (length : Nat) : Nat → List Statement → Text → Option (List Statement)
  | 0, _, _ => none
  | fuel + 1, read, text =>
    match skipSpace text with
    | [] => some read.reverse
    | '#' :: rest =>
      match lineEnd? ('#' :: rest) with
      | some rest => statementsFrom length fuel read rest
      | none => none
    | '\n' :: rest => statementsFrom length fuel read rest
    | '\r' :: '\n' :: rest => statementsFrom length fuel read rest
    | text =>
      match statement? length text with
      | some (statement, rest) => statementsFrom length fuel (statement :: read) rest
      | none => none

/-- The text without a byte order mark at its front. -/
def dropMark : Text → Text
  | '\uFEFF' :: rest => rest
  | text => text

/-- The statements of a document. -/
def statements? (text : Text) : Option (List Statement) :=
  let length := text.length + 1
  statementsFrom length length [] (dropMark text)

/-- A tree that is growing, and the header below which pairs go. -/
structure Growth where
  entries : Entries := []
  header : List Text := []

/-- Grow a tree by one statement. -/
def Growth.take (growth : Growth) : Statement → Option Growth
  | .table header => (growth.entries.openTable header).map (⟨·, header⟩)
  | .element header => (growth.entries.openElement header).map (⟨·, header⟩)
  | .pair key item =>
    (growth.entries.assignBelow growth.header key item).map (⟨·, growth.header⟩)

/-- The entries at the top level of the document that a list of statements makes. -/
def entriesOf? (statements : List Statement) : Option Entries :=
  (statements.foldlM Growth.take {}).map Growth.entries

/-- The entries at the top level of a document, if it is valid. -/
def parse? (text : Text) : Option Entries :=
  statements? text >>= entriesOf?

end Toml

end ClassSizes
