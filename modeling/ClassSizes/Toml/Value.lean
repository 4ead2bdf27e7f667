import ClassSizes.Toml.Item
import ClassSizes.Toml.Numeral
import ClassSizes.Toml.Quoted

/-!
# Values

The first character of a value says what it is; among the values that begin with a digit or a
sign, moments come before floats and floats before integers.  Arrays may run over several lines
and end in a comma; inline tables may not.  Arrays and inline tables together nest 79 deep, which
is what makes the descent structural; the items of one of them are bounded in number by the length
of the whole document, which is handed down as `fuel`.
-/

namespace ClassSizes

namespace Toml

/-- Read the items of an array up to the bracket that closes it. -/
def arrayFrom (item : Reads Item) : Nat → List Item → Reads (List Item)
  | 0, _, _ => none
  | fuel + 1, read, text =>
    match skipLayout text with
    | ']' :: rest => some (read.reverse, rest)
    | text =>
      match item text with
      | none => none
      | some (value, rest) =>
        match skipLayout rest with
        | ',' :: rest => arrayFrom item fuel (value :: read) rest
        | ']' :: rest => some ((value :: read).reverse, rest)
        | _ => none

/-- Read a key, an equals sign, and a value. -/
def pair? (item : Reads Item) (text : Text) : Option ((List Text × Item) × Text) := do
  let (key, rest) ← key? keyLimit text
  let rest ← literal? ['='] rest
  let (value, rest) ← item (skipSpace rest)
  some ((key, value), rest)

/-- Read the pairs of an inline table that is not empty up to the brace that closes it. -/
def pairsFrom (item : Reads Item) :
    Nat → List (List Text × Item) → Reads (List (List Text × Item))
  | 0, _, _ => none
  | fuel + 1, read, text =>
    match pair? item text with
    | none => none
    | some (pair, rest) =>
      match skipSpace rest with
      | ',' :: rest => pairsFrom item fuel (pair :: read) rest
      | '}' :: rest => some ((pair :: read).reverse, rest)
      | _ => none

/-- Read an inline table after its opening brace. -/
def inlineTable? (fuel : Nat) (item : Reads Item) (text : Text) : Option (Item × Text) :=
  match skipSpace text with
  | '}' :: rest => some (.table .inline [], rest)
  | text => do
    let (pairs, rest) ← pairsFrom item fuel [] text
    let entries ← Entries.ofPairs .inline pairs
    some (.table .inline entries, rest)

/-- Read a value that begins with a digit or a sign. -/
def numeric? (text : Text) : Option (Item × Text) :=
  match moment? text with
  | some (moment, rest) => some (.moment moment, rest)
  | none =>
    match float? text with
    | some (decimal, rest) => some (.float decimal, rest)
    | none =>
      match specialFloat? text with
      | some rest => some (.special, rest)
      | none => (integer? text).map fun (value, rest) => (.integer value, rest)

/-- Whether a value that begins with this character is numeric. -/
def beginsNumeric (character : Char) : Bool :=
  character.isDigit || character == '+' || character == '-'

/-- Read a value with at most so many arrays and inline tables inside one another. -/
def value? (fuel : Nat) : Nat → Reads Item
  | _, [] => none
  | 0, '[' :: _ => none
  | 0, '{' :: _ => none
  | depth + 1, '[' :: rest =>
    (arrayFrom (value? fuel depth) fuel [] rest).map fun (items, rest) => (.array items, rest)
  | depth + 1, '{' :: rest => inlineTable? fuel (value? fuel depth) rest
  | _, character :: rest =>
    if character = '"' ∨ character = '\'' then
      (string? (character :: rest)).map fun (text, rest) => (.string text, rest)
    else if beginsNumeric character then numeric? (character :: rest)
    else if character = 't' then (literal? ['r', 'u', 'e'] rest).map (.boolean true, ·)
    else if character = 'f' then (literal? ['a', 'l', 's', 'e'] rest).map (.boolean false, ·)
    else (specialFloat? (character :: rest)).map (.special, ·)

/-- How deep arrays and inline tables nest at most. -/
def depthLimit : Nat := 79

end Toml

end ClassSizes
