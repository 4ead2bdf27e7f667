import ClassSizes.Decimal.Binary64
import ClassSizes.Toml.Layout

/-!
# Numerals

Integers are decimal with an optional sign, or hexadecimal, octal or binary without one, and have
to fit 64 bits.  Floats have a fraction or an exponent or both; one that is too great for the
64-bit binary format is not valid.  Underscores may stand between two digits.
-/

namespace ClassSizes

namespace Toml

/-- Whether a character is a digit of a radix. -/
def isDigitOf (radix : Nat) (character : Char) : Bool :=
  (digitOf? radix character).isSome

/-- The longest run of digits, with single underscores between digits, that goes on from a digit
just read; and the text that is left. -/
def moreDigits (radix : Nat) : Text → Text × Text
  | '_' :: character :: rest =>
    if isDigitOf radix character then
      let (digits, left) := moreDigits radix rest
      (character :: digits, left)
    else ([], '_' :: character :: rest)
  | character :: rest =>
    if isDigitOf radix character then
      let (digits, left) := moreDigits radix rest
      (character :: digits, left)
    else ([], character :: rest)
  | [] => ([], [])

/-- Read a run of digits. -/
def digits? (radix : Nat) : Reads Text
  | character :: rest =>
    if isDigitOf radix character then
      let (digits, left) := moreDigits radix rest
      some (character :: digits, left)
    else none
  | [] => none

/-- Read a run of digits that is a single zero or does not begin with one. -/
def wholeDigits? : Reads Text
  | '0' :: rest => some (['0'], rest)
  | text => digits? 10 text

/-- Read a sign, and say whether it is a minus. -/
def sign : Text → Bool × Text
  | '-' :: rest => (true, rest)
  | '+' :: rest => (false, rest)
  | text => (false, text)

/-- Read an exponent. -/
def exponent? : Reads Int
  | 'e' :: rest | 'E' :: rest =>
    let (negative, rest) := sign rest
    (digits? 10 rest).map fun (digits, rest) =>
      let value : Int := valueOfDigits 10 digits
      (if negative then -value else value, rest)
  | _ => none

/-- The number with a sign, digits before and after the point, and an exponent, unless it is a
number above zero that is too great for the format. -/
def floatOf? (negative : Bool) (whole fraction : Text) (exponent : Int) : Option Decimal :=
  let decimal : Decimal :=
    { negative
      digits := valueOfDigits 10 (whole ++ fraction)
      exponent := exponent - fraction.length }
  if !negative && Binary64.overflows decimal then none else some decimal

/-- Read a number with a fraction or an exponent. -/
def float? (text : Text) : Option (Decimal × Text) := do
  let (negative, rest) := sign text
  let (whole, rest) ← wholeDigits? rest
  match rest with
  | '.' :: rest =>
    let (fraction, rest) ← digits? 10 rest
    match exponent? rest with
    | some (exponent, rest) => (floatOf? negative whole fraction exponent).map (·, rest)
    | none => (floatOf? negative whole fraction 0).map (·, rest)
  | rest =>
    let (exponent, rest) ← exponent? rest
    (floatOf? negative whole [] exponent).map (·, rest)

/-- Read an infinity or a value that is no number. -/
def specialFloat? (text : Text) : Option Text :=
  let rest := (sign text).2
  literal? ['i', 'n', 'f'] rest <|> literal? ['n', 'a', 'n'] rest

/-- An integer, if it fits 64 bits. -/
def bounded? (value : Int) : Option Int :=
  if -(powerOfTwo 63 : Int) ≤ value ∧ value < powerOfTwo 63 then some value else none

/-- Read digits of a radix after its mark. -/
def radixInteger? (radix : Nat) (text : Text) : Option (Int × Text) := do
  let (digits, rest) ← digits? radix text
  let value ← bounded? (valueOfDigits radix digits)
  some (value, rest)

/-- Read an integer. -/
def integer? : Reads Int
  | '0' :: 'x' :: rest => radixInteger? 16 rest
  | '0' :: 'o' :: rest => radixInteger? 8 rest
  | '0' :: 'b' :: rest => radixInteger? 2 rest
  | text => do
    let (negative, rest) := sign text
    let (digits, rest) ← wholeDigits? rest
    let magnitude : Int := valueOfDigits 10 digits
    let value ← bounded? (if negative then -magnitude else magnitude)
    some (value, rest)

end Toml

end ClassSizes
