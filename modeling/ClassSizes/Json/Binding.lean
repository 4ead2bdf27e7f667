import ClassSizes.Config
import ClassSizes.Json.Value
import ClassSizes.Record
import ClassSizes.Text.Hidden

/-!
# Records and configurations as JSON

A record is an object with the members `class_name` and `size`, and a configuration one with
`input_path` and `output_path`; either may also be written as an array of the two strings.  Other
members are passed over.  A configuration takes what is missing from its default; a record has to
be complete.

Members are looked at in the alphabetical order of their names, and the first that has the wrong
type decides.
-/

namespace ClassSizes

namespace Json

/-- Why a JSON value is not what was wanted. -/
inductive Mismatch where
  | wrongType (found expected : String)
  | wrongLength (found : Nat) (expected : String)
  | missingField (name : String)
  deriving DecidableEq, Repr

/-- The wording of a mismatch. -/
def Mismatch.message : Mismatch → String
  | wrongType found expected => "invalid type: " ++ found ++ ", expected " ++ expected
  | wrongLength found expected =>
    "invalid length " ++ toString found ++ ", expected " ++ expected
  | missingField name => "missing field `" ++ name ++ "`"

/-- A character in a string that shows a text exactly. -/
def shownChar (character : Char) : Text :=
  match character with
  | '"' => ['\\', '"']
  | '\\' => ['\\', '\\']
  | '\n' => ['\\', 'n']
  | '\r' => ['\\', 'r']
  | '\t' => ['\\', 't']
  | '\x00' => ['\\', '0']
  | _ =>
    if isHidden character then
      ['\\', 'u', '\x7b'] ++ Nat.toDigits 16 character.toNat ++ ['\x7d']
    else [character]

/-- What kind of value is found. -/
def kind : Json → String
  | null => "null"
  | boolean value => "boolean `" ++ (if value then "true" else "false") ++ "`"
  | integer value => "integer `" ++ toString value ++ "`"
  | real negative magnitude => "floating point `" ++ realText negative magnitude ++ "`"
  | string text => "string \"" ++ String.ofList (text.flatMap shownChar) ++ "\""
  | array _ => "sequence"
  | object _ => "map"

/-- The text of a string. -/
def text? (expected : String) : Json → Except Mismatch Text
  | string text => .ok text
  | value => .error (.wrongType value.kind expected)

/-- The text of a member of an object, if it is there. -/
def memberText? (expected : String) (members : List (Text × Json)) (name : Text) :
    Except Mismatch (Option Text) :=
  match member? name members with
  | none => .ok none
  | some value => (value.text? expected).map some

/-- The texts of the first items of an array, at most two. -/
def itemTexts? (expected : String) : List Json → Except Mismatch (Option Text × Option Text)
  | [] => .ok (none, none)
  | [first] => do pure (some (← first.text? expected), none)
  | first :: second :: _ => do pure (some (← first.text? expected), some (← second.text? expected))

/-- Refuse an array of more than two items. -/
def requireTwo (items : List Json) : Except Mismatch Unit :=
  if items.length ≤ 2 then .ok ()
  else .error (.wrongLength items.length "fewer elements in array")

/-- The member of a record that holds the name. -/
def nameKey : Text := ['c', 'l', 'a', 's', 's', '_', 'n', 'a', 'm', 'e']

/-- The member of a record that holds the size. -/
def sizeKey : Text := ['s', 'i', 'z', 'e']

/-- The record that a value stands for. -/
def record? : Json → Except Mismatch Record
  | object members => do
    let name ← memberText? "a string" members nameKey
    let size ← memberText? "a string" members sizeKey
    match name, size with
    | some name, some size => pure ⟨name, size⟩
    | none, _ => .error (.missingField (String.ofList nameKey))
    | some _, none => .error (.missingField (String.ofList sizeKey))
  | array items => do
    match ← itemTexts? "a string" items with
    | (some name, some size) =>
      requireTwo items
      pure ⟨name, size⟩
    | _ => .error (.wrongLength items.length "struct ClassSizeRecord with 2 elements")
  | value => .error (.wrongType value.kind "struct ClassSizeRecord")

/-- The object that stands for a record. -/
def ofRecord (record : Record) : Json :=
  object [(nameKey, string record.name), (sizeKey, string record.size)]

/-- The settings that a value stands for. -/
def settings? : Json → Except Mismatch Settings
  | object members => do
    let input ← memberText? "path string" members Settings.inputKey
    let output ← memberText? "path string" members Settings.outputKey
    pure ⟨input.map Utf8.encode, output.map Utf8.encode⟩
  | array items => do
    let (input, output) ← itemTexts? "path string" items
    requireTwo items
    pure ⟨input.map Utf8.encode, output.map Utf8.encode⟩
  | value => .error (.wrongType value.kind "struct ExtractorConfig")

/-- The configuration that a value stands for, for a program in the given directory. -/
def config? (directory : Path) (value : Json) : Except Mismatch Config :=
  value.settings?.map (·.fillFrom (Config.default directory))

/-- The object that stands for a configuration. -/
def ofConfig (config : Config) : Json :=
  object
    [(Settings.inputKey, string (Utf8.display config.input)),
      (Settings.outputKey, string (Utf8.display config.output))]

end Json

end ClassSizes
