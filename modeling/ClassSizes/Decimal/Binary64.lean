import ClassSizes.Decimal.Basic

/-!
# Decimals and 64-bit binary floating point

A finite magnitude of the 64-bit binary format is `significand * 2 ^ exponent` with a significand
below `2 ^ 53` and an exponent of at least `-1074`.  Everything here is exact arithmetic on natural
numbers: the magnitude nearest to a quotient (of two that are equally near, the one with the even
significand), the products and quotients of the format, which are the magnitudes nearest to the
exact ones, and the shortest decimal that is nearest to no other magnitude.
-/

namespace ClassSizes

namespace Binary64

/-- A finite magnitude. -/
structure Magnitude where
  significand : Nat
  exponent : Int
  deriving DecidableEq, Repr

/-- The least exponent. -/
def leastExponent : Int := -1074

/-- The quotient rounded to the nearest whole number, a half to the even one. -/
def roundDiv (numerator denominator : Nat) : Nat :=
  let quotient := numerator / denominator
  let rest := 2 * (numerator % denominator)
  if rest < denominator then quotient
  else if denominator < rest then quotient + 1
  else quotient + quotient % 2

/-- The quotient of two numbers and a power of two, as numerator and denominator. -/
def shift (numerator denominator : Nat) (exponent : Int) : Nat × Nat :=
  if 0 ≤ exponent then (numerator, denominator * powerOfTwo exponent)
  else (numerator * powerOfTwo (-exponent), denominator)

/-- The magnitude nearest to a positive quotient. -/
def nearest (numerator denominator : Nat) : Magnitude :=
  let estimate : Int := (numerator.log2 : Int) - (denominator.log2 : Int) - 53
  let (scaled, unit) := shift numerator denominator estimate
  let fitting := if scaled / unit < powerOfTwo 53 then estimate else estimate + 1
  let exponent := max leastExponent fitting
  let (scaled, unit) := shift numerator denominator exponent
  let significand := roundDiv scaled unit
  if significand < powerOfTwo 53 then ⟨significand, exponent⟩
  else ⟨powerOfTwo 52, exponent + 1⟩

/-- Whether a magnitude is too great for the format. -/
def Magnitude.overflows (magnitude : Magnitude) : Bool :=
  magnitude.significand != 0 && (magnitude.significand.log2 : Int) + magnitude.exponent ≥ 1024

/-- The number of decimal digits of a number. -/
def decimalLength (number : Nat) : Nat :=
  (Nat.toDigits 10 number).length

/-- Whether a decimal is so great that it has no nearest finite magnitude.  The length of the
number decides alone when it is far from the limit. -/
def overflows (decimal : Decimal) : Bool :=
  let reach := (decimalLength decimal.digits : Int) + decimal.exponent
  if decimal.digits = 0 ∨ reach < 300 then false
  else if 320 < reach then true
  else if 0 ≤ decimal.exponent then
    (nearest (decimal.digits * powerOfTen decimal.exponent) 1).overflows
  else (nearest decimal.digits (powerOfTen (-decimal.exponent))).overflows

/-- The magnitude nearest to `numerator / denominator * 2 ^ exponent`. -/
def nearestScaled (numerator denominator : Nat) (exponent : Int) : Magnitude :=
  nearest (numerator * powerOfTwo exponent) (denominator * powerOfTwo (-exponent))

/-- The product of two magnitudes, rounded; it may be too great for the format. -/
def Magnitude.mul (first second : Magnitude) : Magnitude :=
  nearestScaled (first.significand * second.significand) 1 (first.exponent + second.exponent)

/-- The quotient of a magnitude and one that is not zero, rounded. -/
def Magnitude.div (first second : Magnitude) : Magnitude :=
  nearestScaled first.significand second.significand (first.exponent - second.exponent)

/-- The magnitude zero. -/
def zero : Magnitude := ⟨0, leastExponent⟩

/-- The greatest power of ten that is below the greatest magnitude. -/
def greatestPower : Int := 308

/-- A power of ten as a magnitude; the exponent is at most the greatest. -/
def tenTo (exponent : Int) : Magnitude :=
  nearest (powerOfTen exponent) 1

/-- A whole number below `2 ^ 64` times a power of ten, unless that is too great.  Both are rounded
before they are multiplied or divided, so the result need not be the nearest magnitude.  Of a very
small power the greatest one is split off first, and one that is smaller still leaves nothing. -/
def scaled? (number : Nat) (exponent : Int) : Option Magnitude :=
  let whole := nearest number 1
  if number = 0 then some zero
  else if greatestPower < exponent then none
  else if 0 ≤ exponent then
    let product := whole.mul (tenTo exponent)
    if product.overflows then none else some product
  else if -greatestPower ≤ exponent then some (whole.div (tenTo (-exponent)))
  else if -(2 * greatestPower) ≤ exponent then
    some ((whole.div (tenTo greatestPower)).div (tenTo (-exponent - greatestPower)))
  else some zero

/-- Compare `left * 2 ^ exponent` with `right * 10 ^ power`. -/
def compareScaled (left : Nat) (exponent : Int) (right : Nat) (power : Int) : Ordering :=
  compare (left * powerOfTwo exponent * powerOfTen (-power))
    (right * powerOfTen power * powerOfTwo (-exponent))

/-- Whether `candidate * 10 ^ power` rounds to a magnitude: it lies between the points halfway to
the two neighbours, which belong to the magnitude when its significand is even. -/
def roundsTo (magnitude : Magnitude) (candidate : Nat) (power : Int) : Bool :=
  let four := 4 * magnitude.significand
  let lower :=
    if magnitude.significand = powerOfTwo 52 ∧ leastExponent < magnitude.exponent then four - 1
    else four - 2
  let below := compareScaled lower (magnitude.exponent - 2) candidate power
  let above := compareScaled (four + 2) (magnitude.exponent - 2) candidate power
  let closed := magnitude.significand % 2 == 0
  (below == .lt || (closed && below == .eq)) && (above == .gt || (closed && above == .eq))

/-- The whole part of a magnitude divided by a power of ten. -/
def floorAt (magnitude : Magnitude) (power : Int) : Nat :=
  (magnitude.significand * powerOfTwo magnitude.exponent * powerOfTen (-power)) /
    (powerOfTen power * powerOfTwo (-magnitude.exponent))

/-- The multiple of a power of ten that rounds to a magnitude and is nearest to it, if there is
one. -/
def candidate? (magnitude : Magnitude) (power : Int) : Option Nat :=
  let low := floorAt magnitude power
  match roundsTo magnitude low power, roundsTo magnitude (low + 1) power with
  | true, true =>
    match compareScaled (2 * magnitude.significand) magnitude.exponent (2 * low + 1) power with
    | .lt => some low
    | .gt => some (low + 1)
    | .eq => some (low + low % 2)
  | true, false => some low
  | false, true => some (low + 1)
  | false, false => none

/-- Search the powers of ten downwards for the first of which some multiple rounds to a
magnitude. -/
def shortestFrom (magnitude : Magnitude) (power : Int) : Nat → Decimal
  | 0 => { digits := floorAt magnitude power, exponent := power }
  | fuel + 1 =>
    match candidate? magnitude power with
    | some digits => { digits, exponent := power }
    | none => shortestFrom magnitude (power - 1) fuel

/-- The shortest decimal that rounds to a magnitude. -/
def shortest (magnitude : Magnitude) : Decimal :=
  if magnitude.significand = 0 then { digits := 0, exponent := 0 }
  else
    let bits := (magnitude.significand.log2 : Int) + magnitude.exponent
    shortestFrom magnitude (bits * 30103 / 100000 + 1) 25

end Binary64

namespace Decimal

/-- The digits of a decimal without an exponent, with at least one digit on both sides of the
point. -/
def positional (decimal : Decimal) : String :=
  let digits := Nat.toDigits 10 decimal.digits
  let body :=
    if 0 ≤ decimal.exponent then digits ++ List.replicate decimal.exponent.toNat '0' ++ ['.', '0']
    else
      let places := (-decimal.exponent).toNat
      let padded := List.replicate (places + 1 - digits.length) '0' ++ digits
      padded.take (padded.length - places) ++ '.' :: padded.drop (padded.length - places)
  String.ofList (if decimal.negative then '-' :: body else body)

/-- The power of ten at which the first digit of a decimal stands. -/
def place (decimal : Decimal) : Int :=
  (Binary64.decimalLength decimal.digits : Int) - 1 + decimal.exponent

/-- A whole number with its sign, which is always written. -/
def signed (number : Int) : List Char :=
  (if number < 0 then '-' else '+') :: Nat.toDigits 10 number.natAbs

/-- The digits of a decimal with a point after the first one, if there are more, and the power of
ten at which the first one stands. -/
def scientific (decimal : Decimal) : String :=
  let body :=
    match Nat.toDigits 10 decimal.digits with
    | first :: second :: rest => first :: '.' :: second :: rest
    | digits => digits
  let text := body ++ 'e' :: signed decimal.place
  String.ofList (if decimal.negative then '-' :: text else text)

end Decimal

end ClassSizes
