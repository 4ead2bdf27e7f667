import ClassSizes.ClassName
import ClassSizes.Text.Digit

/-!
# Class size records

A record pairs a class name with a size.  The size is kept as it was written: it may have leading
zeros, digits of any script, or more digits than a machine word can hold.  Only `bytes?` reads it
as a number, and only when it is an ASCII numeral of at most 64 bits.
-/

namespace ClassSizes

/-- A class and its size as written. -/
structure Record where
  name : Text
  size : Text
  deriving DecidableEq, Repr

namespace Size

/-- The greatest size that counts as a number: the last one of 64 bits. -/
def limit : Nat := 18446744073709551615

/-- Continue a numeral whose digits so far have the value `value`, digit by digit, giving up as
soon as the value passes the limit. -/
def digits? : Nat → Text → Option Nat
  | value, [] => some value
  | value, character :: rest =>
    match asciiDigit? character with
    | none => none
    | some digit =>
      if value * 10 > limit then none
      else if value * 10 + digit > limit then none
      else digits? (value * 10 + digit) rest

/-- The value of a numeral: ASCII digits, at least one, after at most one plus sign. -/
def value? : Text → Option Nat
  | [] => none
  | ['+'] => none
  | '+' :: digits => digits? 0 digits
  | digits => digits? 0 digits

end Size

namespace Record

/-- The size in bytes, if it is a numeral within the limit. -/
def bytes? (record : Record) : Option Nat :=
  Size.value? record.size

/-- Whether the class is a lambda proxy. -/
def isLambda (record : Record) : Bool :=
  ClassName.isLambda record.name

end Record

end ClassSizes
