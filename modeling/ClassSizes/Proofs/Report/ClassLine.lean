import ClassSizes.Proofs.ClassName
import ClassSizes.Report.ClassLine
import Mathlib.Data.List.TakeWhile

/-!
# The shape of a class line

`Shape` says what follows the marker in a line that conforms: white space, a size, white space, a
name, and a rest that does not go on with the name.  It speaks of parts of the text and not of
longest runs.  The search takes longest runs and finds the same parts, since no character can
belong to two neighbouring ones.
-/

namespace ClassSizes

/-- A run of characters of a class ends where the next character is of another. -/
theorem takeWhile_dropWhile_append {α : Type} {test : α → Bool} {run rest : List α}
    (all : ∀ item ∈ run, test item = true) (ends : ∀ item ∈ rest.head?, test item = false) :
    (run ++ rest).takeWhile test = run ∧ (run ++ rest).dropWhile test = rest := by
  rw [List.takeWhile_append_of_pos all, List.dropWhile_append_of_pos all]
  cases rest with
  | nil => simp
  | cons item rest =>
      have other : ¬test item = true := by simp [ends item rfl]
      rw [List.takeWhile_cons_of_neg other, List.dropWhile_cons_of_neg other, List.append_nil]
      exact ⟨rfl, rfl⟩

theorem forall_head?_append {α : Type} {property : α → Prop} {first second : List α}
    (nonempty : first ≠ []) (all : ∀ item ∈ first, property item) :
    ∀ item ∈ (first ++ second).head?, property item := by
  rw [List.head?_append_of_ne_nil _ nonempty]
  exact fun item head => all item (List.mem_of_mem_head? head)

/-- What is left after the longest run of a class does not begin with a character of it. -/
theorem head?_dropWhile {α : Type} (test : α → Bool) (items : List α) :
    ∀ item ∈ (items.dropWhile test).head?, test item = false := by
  intro item member
  have found := List.head?_dropWhile_not test items
  rw [Option.mem_def.mp member] at found
  simpa using found

theorem isDecimalDigit_eq_false_of_isBlank {character : Char} (blank : isBlank character = true) :
    isDecimalDigit character = false := by
  by_contra digit
  rw [Bool.not_eq_false] at digit
  rw [isBlank_eq_false_of_isDecimalDigit digit] at blank
  contradiction

namespace ClassLine

/-- The parts of a text that follows a marker in a line that conforms. -/
structure Shape (before size between name rest : Text) : Prop where
  before_ne_nil : before ≠ []
  before_blank : ∀ character ∈ before, isBlank character = true
  size_ne_nil : size ≠ []
  size_digits : ∀ character ∈ size, isDecimalDigit character = true
  between_ne_nil : between ≠ []
  between_blank : ∀ character ∈ between, isBlank character = true
  name_ne_nil : name ≠ []
  name_solid : ∀ character ∈ name, isBlank character = false
  rest_blank : ∀ character ∈ rest.head?, isBlank character = true

theorem afterBlank?_eq_some_iff {text rest : Text} :
    afterBlank? text = some rest ↔
      ∃ blanks, blanks ≠ [] ∧ (∀ character ∈ blanks, isBlank character = true) ∧
        (∀ character ∈ rest.head?, isBlank character = false) ∧ text = blanks ++ rest := by
  unfold afterBlank?
  constructor
  · intro found
    split at found
    · contradiction
    · next some_blank =>
      cases found
      exact ⟨text.takeWhile isBlank, some_blank, fun _ => List.mem_takeWhile_imp,
        head?_dropWhile isBlank text, List.takeWhile_append_dropWhile.symm⟩
  · rintro ⟨blanks, some_blank, blank, solid, rfl⟩
    obtain ⟨taken, dropped⟩ := takeWhile_dropWhile_append blank solid
    rw [taken, dropped, if_neg some_blank]

/-- A text conforms behind its marker if and only if it has a shape. -/
theorem shape?_eq_some_iff {text : Text} {record : Record} :
    shape? text = some record ↔
      ∃ before between name rest, Shape before record.size between name rest ∧
        record.name = ClassName.slashForm name ∧
        text = before ++ (record.size ++ (between ++ (name ++ rest))) := by
  constructor
  · intro found
    simp only [shape?, Option.bind_eq_bind, Option.bind_eq_some_iff] at found
    obtain ⟨sized, afterBefore, named, afterBetween, found⟩ := found
    split at found
    · contradiction
    · next some_size_name =>
      rw [not_or] at some_size_name
      cases found
      obtain ⟨before, some_before, beforeBlank, _, rfl⟩ := afterBlank?_eq_some_iff.mp afterBefore
      obtain ⟨between, some_between, betweenBlank, _, dropped⟩ :=
        afterBlank?_eq_some_iff.mp afterBetween
      refine ⟨before, between, named.takeWhile (!isBlank ·), named.dropWhile (!isBlank ·),
        ⟨some_before, beforeBlank, some_size_name.1, fun _ => List.mem_takeWhile_imp,
          some_between, betweenBlank, some_size_name.2, ?_, ?_⟩, rfl, ?_⟩
      · intro character member
        simpa using List.mem_takeWhile_imp member
      · intro character first
        simpa using head?_dropWhile _ named character first
      · rw [List.takeWhile_append_dropWhile, ← dropped, List.takeWhile_append_dropWhile]
  · rintro ⟨before, between, name, rest, shape, slashed, rfl⟩
    have sized : afterBlank? (before ++ (record.size ++ (between ++ (name ++ rest)))) =
        some (record.size ++ (between ++ (name ++ rest))) :=
      afterBlank?_eq_some_iff.mpr ⟨before, shape.before_ne_nil, shape.before_blank,
        forall_head?_append shape.size_ne_nil fun character digit =>
          isBlank_eq_false_of_isDecimalDigit (shape.size_digits character digit), rfl⟩
    have named : afterBlank? (between ++ (name ++ rest)) = some (name ++ rest) :=
      afterBlank?_eq_some_iff.mpr ⟨between, shape.between_ne_nil, shape.between_blank,
        forall_head?_append shape.name_ne_nil shape.name_solid, rfl⟩
    have sizeEnds : ∀ character ∈ (between ++ (name ++ rest)).head?,
        isDecimalDigit character = false :=
      forall_head?_append shape.between_ne_nil fun character blank =>
        isDecimalDigit_eq_false_of_isBlank (shape.between_blank character blank)
    obtain ⟨size, afterSize⟩ := takeWhile_dropWhile_append shape.size_digits sizeEnds
    have solid : ∀ character ∈ name, (!isBlank character) = true := by
      simpa using shape.name_solid
    have nameEnds : ∀ character ∈ rest.head?, (!isBlank character) = false := by
      simpa using shape.rest_blank
    obtain ⟨taken, _⟩ := takeWhile_dropWhile_append solid nameEnds
    simp only [shape?, sized, size, afterSize, named, taken, shape.size_ne_nil, shape.name_ne_nil,
      or_self, if_false, Option.bind_eq_bind, Option.bind_some, ← slashed]

/-! ## Searching a line -/

/-- A marker at the front of a line decides if what follows it conforms. -/
theorem search_marker_append {text : Text} {record : Record}
    (conforms : shape? text = some record) : search (marker ++ text) = some record := by
  have found : marker.isPrefixOf (marker ++ text) = true :=
    List.isPrefixOf_iff_prefix.mpr (List.prefix_append _ _)
  have behind : (marker.tail ++ text).drop (marker.length - 1) = text := rfl
  change search ('@' :: (marker.tail ++ text)) = some record
  rw [search, behind, conforms]
  exact if_pos found

theorem record?_marker_append {text : Text} {record : Record}
    (conforms : shape? text = some record) : record? (marker ++ text) = some record := by
  have marked : hasMarker (marker ++ text) = true :=
    occursIn_iff.mpr (List.prefix_append _ _).isInfix
  rw [record?, if_pos marked, search_marker_append conforms]

end ClassLine

end ClassSizes
