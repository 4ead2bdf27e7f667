import ClassSizes.Decimal.Basic
import ClassSizes.Toml.Layout

/-!
# Dates and times

A moment is a date, a time of day, or both with `T`, `t` or a blank between them; with both, an
offset from universal time may follow.  Days are checked against the length of their month, and a
minute may have a leap second.
-/

namespace ClassSizes

namespace Toml

/-- A date of the Gregorian calendar. -/
structure Date where
  year : Nat
  month : Nat
  day : Nat
  deriving DecidableEq, Repr

/-- A time of day; the digits of the fraction of its second are kept as written. -/
structure Time where
  hour : Nat
  minute : Nat
  second : Nat
  fraction : Text := []
  deriving DecidableEq, Repr

/-- A date, a time of day, or both. -/
inductive Moment where
  | date (date : Date)
  | time (time : Time)
  /-- A date and a time, and by how many minutes the time is ahead of universal time if known. -/
  | dateTime (date : Date) (time : Time) (offset : Option Int)
  deriving DecidableEq, Repr

/-- Whether a year has a leap day. -/
def isLeapYear (year : Nat) : Bool :=
  year % 4 == 0 && (year % 100 != 0 || year % 400 == 0)

/-- The number of days of a month. -/
def monthLength (year month : Nat) : Nat :=
  if month = 2 then if isLeapYear year then 29 else 28
  else if month = 4 ∨ month = 6 ∨ month = 9 ∨ month = 11 then 30
  else 31

/-- Whether a date exists. -/
def Date.isValid (date : Date) : Bool :=
  1 ≤ date.month && date.month ≤ 12 && 1 ≤ date.day &&
    date.day ≤ monthLength date.year date.month

/-- Whether a time of day exists; any minute may have a second 60. -/
def Time.isValid (time : Time) : Bool :=
  time.hour ≤ 23 && time.minute ≤ 59 && time.second ≤ 60

/-- Read two decimal digits. -/
def twoDigits? : Reads Nat
  | first :: second :: rest => do
    let tens ← digitOf? 10 first
    let ones ← digitOf? 10 second
    some (tens * 10 + ones, rest)
  | _ => none

/-- Read a date. -/
def date? (text : Text) : Option (Date × Text) := do
  let (century, rest) ← twoDigits? text
  let (year, rest) ← twoDigits? rest
  let (month, rest) ← twoDigits? (← literal? ['-'] rest)
  let (day, rest) ← twoDigits? (← literal? ['-'] rest)
  let date : Date := ⟨century * 100 + year, month, day⟩
  if date.isValid then some (date, rest) else none

/-- Read the fraction of a second, if there is one. -/
def fraction : Text → Text × Text
  | '.' :: rest =>
    let digits := rest.takeWhile Char.isDigit
    if digits = [] then ([], '.' :: rest) else (digits, rest.dropWhile Char.isDigit)
  | text => ([], text)

/-- Read a time of day. -/
def time? (text : Text) : Option (Time × Text) := do
  let (hour, rest) ← twoDigits? text
  let (minute, rest) ← twoDigits? (← literal? [':'] rest)
  let (second, rest) ← twoDigits? (← literal? [':'] rest)
  let (fraction, rest) := fraction rest
  let time : Time := { hour, minute, second, fraction }
  if time.isValid then some (time, rest) else none

/-- Read hours and minutes ahead of or behind universal time, at most one day. -/
def minutes? (negative : Bool) (text : Text) : Option (Int × Text) := do
  let (hours, rest) ← twoDigits? text
  let (minutes, rest) ← twoDigits? (← literal? [':'] rest)
  let total : Int := hours * 60 + minutes
  if minutes ≤ 59 ∧ total ≤ 24 * 60 then some (if negative then -total else total, rest) else none

/-- Read an offset from universal time. -/
def offset? : Reads Int
  | 'Z' :: rest | 'z' :: rest => some (0, rest)
  | '+' :: rest => minutes? false rest
  | '-' :: rest => minutes? true rest
  | _ => none

/-- Whether a character separates a date from a time. -/
def separatesTime (character : Char) : Bool :=
  character == 'T' || character == 't' || character == ' '

/-- Read the time after a date and the character that separates the two, if they are there. -/
def timeAfter? : Reads Time
  | character :: rest => if separatesTime character then time? rest else none
  | [] => none

/-- Read a moment. -/
def moment? (text : Text) : Option (Moment × Text) :=
  match date? text with
  | none => (time? text).map fun (time, rest) => (.time time, rest)
  | some (date, rest) =>
    match timeAfter? rest with
    | none => some (.date date, rest)
    | some (time, rest) =>
      match offset? rest with
      | some (offset, rest) => some (.dateTime date time (some offset), rest)
      | none => some (.dateTime date time none, rest)

end Toml

end ClassSizes
