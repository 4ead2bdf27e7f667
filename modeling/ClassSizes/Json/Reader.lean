import ClassSizes.Json.Value
import ClassSizes.Text.Reads

/-!
# Reading JSON

A recursive descent over the text.  Values may nest 128 deep, which is what makes the descent
structural.  The items of one array or object are bounded in number by the length of the whole
text, which is handed down as `fuel`.
-/

namespace ClassSizes

namespace Json

/-- Pass over the blanks at the front of a text. -/
def skipBlanks (text : Text) : Text :=
  text.dropWhile fun character =>
    character == ' ' || character == '\n' || character == '\r' || character == '\t'

/-- The value of four hexadecimal digits. -/
def hexUnit? (digits : List Char) : Option Nat :=
  (digits.mapM (digitOf? 16)).map (·.foldl (fun value digit => value * 16 + digit) 0)

/-- The character of a short escape. -/
def shortEscape? (character : Char) : Option Char :=
  match character with
  | '"' => some '"'
  | '\\' => some '\\'
  | '/' => some '/'
  | 'b' => some '\x08'
  | 'f' => some '\x0c'
  | 'n' => some '\n'
  | 'r' => some '\r'
  | 't' => some '\t'
  | _ => none

/-- Add an escaped unit of UTF-16 to the characters read so far, newest first, where `high` is a
leading surrogate that waits for its partner. -/
def addUnit? (read : Text) (high : Option Nat) (unit : Nat) : Option (Text × Option Nat) :=
  match high with
  | some first =>
    if 0xDC00 ≤ unit ∧ unit < 0xE000 then
      some (Char.ofNat (0x10000 + (first - 0xD800) * 1024 + (unit - 0xDC00)) :: read, none)
    else none
  | none =>
    if 0xD800 ≤ unit ∧ unit < 0xDC00 then some (read, some unit)
    else if 0xDC00 ≤ unit ∧ unit < 0xE000 then none
    else some (Char.ofNat unit :: read, none)

/-- Read the rest of a string up to the quote that closes it, `read` being what has been read so
far, newest first. -/
def stringFrom (read : Text) (high : Option Nat) : Reads Text
  | [] => none
  | '\\' :: 'u' :: first :: second :: third :: fourth :: rest =>
    match hexUnit? [first, second, third, fourth] with
    | none => none
    | some unit =>
      match addUnit? read high unit with
      | none => none
      | some (read, high) => stringFrom read high rest
  | '\\' :: character :: rest =>
    match high, shortEscape? character with
    | none, some meaning => stringFrom (meaning :: read) none rest
    | _, _ => none
  | character :: rest =>
    if high.isSome || character.toNat < 0x20 then none
    else if character = '"' then some (read.reverse, rest)
    else stringFrom (character :: read) none rest

/-- Read a string. -/
def string? : Reads Text
  | '"' :: rest => stringFrom [] none rest
  | _ => none

/-- Whether a character is an ASCII digit. -/
def isDigit (character : Char) : Bool :=
  (digitOf? 10 character).isSome

/-- Read a fraction: its digits, of which there are none without a point. -/
def fraction? : Reads Text
  | '.' :: rest =>
    let digits := rest.takeWhile isDigit
    if digits = [] then none else some (digits, rest.dropWhile isDigit)
  | text => some ([], text)

/-- Read the digits of an exponent. -/
def exponentDigits? (negative : Bool) (text : Text) : Option (Option Int × Text) :=
  let digits := text.takeWhile isDigit
  let value : Int := valueOfDigits 10 digits
  if digits = [] then none
  else some (some (if negative then -value else value), text.dropWhile isDigit)

/-- Read an exponent, if there is one. -/
def exponent? : Reads (Option Int)
  | 'e' :: '-' :: rest | 'E' :: '-' :: rest => exponentDigits? true rest
  | 'e' :: '+' :: rest | 'E' :: '+' :: rest => exponentDigits? false rest
  | 'e' :: rest | 'E' :: rest => exponentDigits? false rest
  | text => some (none, text)

/-- Continue a whole number digit by digit for as long as it fits 64 bits, and count the digits
that are left over. -/
def leading : Nat → Text → Nat × Nat
  | value, [] => (value, 0)
  | value, digit :: rest =>
    let next := value * 10 + (digitOf? 10 digit).getD 0
    if next < powerOfTwo 64 then leading next rest else (value, rest.length + 1)

/-- The number that is no integer with the given sign, digits before and after the point, and
exponent, unless it is too great.  Digits that do not fit 64 bits count as zeros. -/
def realOf? (negative : Bool) (whole fraction : Text) (exponent : Int) : Option Json :=
  let (number, zeros) := leading 0 whole
  let (number, dropped) := leading number fraction
  let exponent := exponent + zeros - (fraction.length - dropped : Nat)
  (Binary64.scaled? number exponent).map (real negative)

/-- The number with the given sign, digits before and after the point, and exponent.  It is an
integer if it has neither point nor exponent and fits 64 bits; a negative zero is none. -/
def ofNumeral? (negative : Bool) (whole fraction : Text) (exponent : Option Int) : Option Json :=
  let value := valueOfDigits 10 whole
  let fits := if negative then 0 < value ∧ value ≤ powerOfTwo 63 else value < powerOfTwo 64
  if fraction = [] ∧ exponent = none ∧ fits then
    some (integer (if negative then -(value : Int) else value))
  else realOf? negative whole fraction (exponent.getD 0)

/-- Read a number after its sign. -/
def unsigned? (negative : Bool) (text : Text) : Option (Json × Text) := do
  let whole := text.takeWhile isDigit
  if whole = [] ∨ (whole.head? = some '0' ∧ 1 < whole.length) then none
  else
    let (fraction, rest) ← fraction? (text.dropWhile isDigit)
    let (exponent, rest) ← exponent? rest
    (ofNumeral? negative whole fraction exponent).map (·, rest)

/-- Read a number. -/
def number? : Reads Json
  | '-' :: rest => unsigned? true rest
  | text => unsigned? false text

/-- Read items up to the closing character, a comma between any two of them. -/
def items? {α : Type} (item : Reads α) (close : Char) : Nat → List α → Reads (List α)
  | 0, _, _ => none
  | fuel + 1, read, text =>
    match item (skipBlanks text) with
    | none => none
    | some (value, rest) =>
      match skipBlanks rest with
      | [] => none
      | character :: rest =>
        if character = close then some ((value :: read).reverse, rest)
        else if character = ',' then items? item close fuel (value :: read) rest
        else none

/-- Read the items after an opening character; there may be none. -/
def group? {α : Type} (fuel : Nat) (item : Reads α) (close : Char) (text : Text) :
    Option (List α × Text) :=
  match skipBlanks text with
  | [] => none
  | character :: rest =>
    if character = close then some ([], rest) else items? item close fuel [] (character :: rest)

/-- Read a member of an object whose value is read by `value`. -/
def member (value : Reads Json) (text : Text) : Option ((Text × Json) × Text) := do
  let (name, rest) ← string? text
  let rest ← literal? [':'] (skipBlanks rest)
  let (value, rest) ← value (skipBlanks rest)
  some ((name, value), rest)

/-- Read a value that nests at most so deep. -/
def value? (fuel : Nat) : Nat → Reads Json
  | _, [] => none
  | _, '"' :: rest => (stringFrom [] none rest).map fun (text, rest) => (string text, rest)
  | 0, '[' :: _ => none
  | 0, '{' :: _ => none
  | depth + 1, '[' :: rest =>
    (group? fuel (value? fuel depth) ']' rest).map fun (items, rest) => (array items, rest)
  | depth + 1, '{' :: rest =>
    (group? fuel (member (value? fuel depth)) '}' rest).map fun (members, rest) =>
      (object members, rest)
  | _, 't' :: rest => (literal? ['r', 'u', 'e'] rest).map (boolean true, ·)
  | _, 'f' :: rest => (literal? ['a', 'l', 's', 'e'] rest).map (boolean false, ·)
  | _, 'n' :: rest => (literal? ['u', 'l', 'l'] rest).map (null, ·)
  | _, text => number? text

/-- How deep values may nest. -/
def depthLimit : Nat := 128

/-- The value of a text. -/
def ofText? (text : Text) : Option Json :=
  match value? text.length depthLimit (skipBlanks text) with
  | some (value, rest) => if skipBlanks rest = [] then some value else none
  | none => none

end Json

end ClassSizes
