import ClassSizes.Record
import ClassSizes.Text.Blank

/-!
# Class lines

A line speaks of a class when it contains the marker `@@ Class`.  It *conforms* when some marker
is followed by white space, a decimal size, white space again, and a name: the longest run of
characters that are not white space.  The first marker that is followed by this shape decides; a
marker that is not does not hide a later one.

The three character classes at each joint of the shape exclude one another (a digit is not white
space, and the name begins at the first character that is not), so that taking the longest run at
every step never passes over a match.
-/

namespace ClassSizes

/-- The digits of every script lie in a gap between the blanks. -/
theorem Digit.apart_of_mem_zeros :
    ∀ origin ∈ Digit.zeros,
      (0x20 < origin ∧ origin + 10 ≤ 0x85) ∨ (0xA0 < origin ∧ origin + 10 ≤ 0x1680) ∨
        (0x1680 < origin ∧ origin + 10 ≤ 0x2000) ∨ 0x3000 < origin := by
  decide

/-- A digit is never a blank. -/
theorem isBlank_eq_false_of_isDecimalDigit {character : Char}
    (digit : isDecimalDigit character) : isBlank character = false := by
  obtain ⟨origin, listed, within⟩ := List.any_eq_true.mp digit
  have apart := Digit.apart_of_mem_zeros origin listed
  simp only [Bool.and_eq_true, decide_eq_true_eq] at within
  simp only [isBlank, isWhiteSpace, Bool.or_eq_false_iff, Bool.and_eq_false_iff,
    decide_eq_false_iff_not, beq_eq_false_iff_ne]
  omega

namespace ClassLine

/-- The token that every class line carries. -/
def marker : Text := ['@', '@', ' ', 'C', 'l', 'a', 's', 's']

/-- Whether a line carries the marker. -/
def hasMarker (line : Text) : Bool :=
  occursIn marker line

/-- What follows a non-empty run of white space at the front of a text. -/
def afterBlank? (text : Text) : Option Text :=
  if text.takeWhile isBlank = [] then none else some (text.dropWhile isBlank)

/-- The record whose size and name follow a marker, given the text after the marker. -/
def shape? (text : Text) : Option Record := do
  let sized ← afterBlank? text
  let size := sized.takeWhile isDecimalDigit
  let named ← afterBlank? (sized.dropWhile isDecimalDigit)
  let name := named.takeWhile (!isBlank ·)
  if size = [] ∨ name = [] then none
  else some ⟨ClassName.slashForm name, size⟩

/-- The record at the first marker of a line that is followed by a size and a name. -/
def search : Text → Option Record
  | [] => none
  | first :: rest =>
    if marker.isPrefixOf (first :: rest) then
      match shape? (rest.drop (marker.length - 1)) with
      | some record => some record
      | none => search rest
    else search rest

/-- The record of a line: lines without the marker are not searched. -/
def record? (line : Text) : Option Record :=
  if hasMarker line then search line else none

end ClassLine

/-- What a line of a report turns out to be. -/
inductive LineReading where
  /-- The line does not carry the marker. -/
  | plain
  /-- The line carries the marker but does not conform. -/
  | skipped
  /-- The line holds a record. -/
  | found (record : Record)
  deriving DecidableEq, Repr

/-- Read one line. -/
def LineReading.ofLine (line : Text) : LineReading :=
  if ClassLine.hasMarker line then
    match ClassLine.search line with
    | some record => .found record
    | none => .skipped
  else .plain

end ClassSizes
