/-!
# Decimal numbers

A decimal number is a signed whole number and a power of ten.  Its sign is kept beside it, because
zero has one too.
-/

namespace ClassSizes

/-- The number `digits * 10 ^ exponent`, with a sign. -/
structure Decimal where
  negative : Bool := false
  digits : Nat
  exponent : Int
  deriving DecidableEq, Repr

/-- A power of two; an exponent below zero counts as zero. -/
def powerOfTwo (exponent : Int) : Nat :=
  Nat.pow 2 exponent.toNat

/-- A power of ten; an exponent below zero counts as zero. -/
def powerOfTen (exponent : Int) : Nat :=
  Nat.pow 10 exponent.toNat

/-- The value of a digit of a radix of up to sixteen. -/
def digitOf? (radix : Nat) (character : Char) : Option Nat :=
  let value :=
    if '0' ≤ character ∧ character ≤ '9' then some (character.toNat - '0'.toNat)
    else if 'a' ≤ character ∧ character ≤ 'f' then some (character.toNat - 'a'.toNat + 10)
    else if 'A' ≤ character ∧ character ≤ 'F' then some (character.toNat - 'A'.toNat + 10)
    else none
  value.filter (· < radix)

/-- The value of a run of digits; characters that are not digits are passed over. -/
def valueOfDigits (radix : Nat) (text : List Char) : Nat :=
  (text.filterMap (digitOf? radix)).foldl (fun value digit => value * radix + digit) 0

end ClassSizes
