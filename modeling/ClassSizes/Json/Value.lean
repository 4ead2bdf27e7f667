import ClassSizes.Decimal.Binary64
import ClassSizes.Text.Utf8

/-!
# JSON values

Whole numbers of 64 bits are kept apart from all other numbers, because programs that read typed
values from JSON tell the two apart by how they are written: `1` is an integer and `1.0` is not.
All other numbers are kept in the 64-bit binary format.
-/

namespace ClassSizes

/-- A JSON value. -/
inductive Json where
  | null
  | boolean (value : Bool)
  | integer (value : Int)
  | real (negative : Bool) (magnitude : Binary64.Magnitude)
  | string (text : Text)
  | array (items : List Json)
  | object (members : List (Text × Json))

namespace Json

/-- The string of a text. -/
def text (value : String) : Json :=
  string value.toList

/-- The value of the last member of a name. -/
def member? (name : Text) (members : List (Text × Json)) : Option Json :=
  (members.reverse.find? (·.1 = name)).map (·.2)

/-- The hexadecimal digit of a value below sixteen. -/
def hexDigit (value : Nat) : Char :=
  Char.ofNat (if value < 10 then '0'.toNat + value else 'a'.toNat + (value - 10))

/-- A character as it is written in a string. -/
def escape (character : Char) : Text :=
  if character = '"' then ['\\', '"']
  else if character = '\\' then ['\\', '\\']
  else if character.toNat < 0x20 then
    ['\\', 'u', '0', '0', hexDigit (character.toNat / 16), hexDigit (character.toNat % 16)]
  else [character]

/-- A string in quotes. -/
def quoted (text : Text) : String :=
  String.ofList ('"' :: text.flatMap escape ++ ['"'])

/-- The least power of ten at which the first digit of a number stands that is written without an
exponent. -/
def leastPlace : Int := -5

/-- The greatest such power. -/
def greatestPlace : Int := 15

/-- The text of a number that is no integer: the fewest digits that are nearest to it. -/
def realText (negative : Bool) (magnitude : Binary64.Magnitude) : String :=
  let decimal := { Binary64.shortest magnitude with negative }
  if leastPlace ≤ decimal.place ∧ decimal.place ≤ greatestPlace then decimal.positional
  else decimal.scientific

mutual

/-- The text of a value, without blanks. -/
def render : Json → String
  | null => "null"
  | boolean value => if value then "true" else "false"
  | integer value => toString value
  | real negative magnitude => realText negative magnitude
  | string text => quoted text
  | array items => "[" ++ ",".intercalate (renderItems items) ++ "]"
  | object members => "\x7b" ++ ",".intercalate (renderMembers members) ++ "\x7d"

/-- The texts of the items of an array. -/
def renderItems : List Json → List String
  | [] => []
  | item :: rest => render item :: renderItems rest

/-- The texts of the members of an object. -/
def renderMembers : List (Text × Json) → List String
  | [] => []
  | (name, value) :: rest => (quoted name ++ ":" ++ render value) :: renderMembers rest

end

end Json

end ClassSizes
