import ClassSizes.Proofs.ClassName.Places
import ClassSizes.Table

/-!
# Names with one slash form

The slash form of a slash form is itself, and the slash forms are the names in which neither pass
finds anything to replace.  Names that have one slash form share the key under which a table finds
their sizes.  `Alike` says when that happens, without speaking of the slash form: two such names
differ only in which separators they use, and in plus signs only where `0x` follows in both.
-/

namespace ClassSizes.ClassName

@[simp]
theorem slashForm_slashForm (name : Text) : slashForm (slashForm name) = slashForm name :=
  slashForm_eq_self (dot_not_mem_slashForm name) (address_not_infix_slashForm name)

theorem slashForm_eq_self_iff {name : Text} :
    slashForm name = name ↔ '.' ∉ name ∧ ¬address <:+: name := by
  constructor
  · intro same
    rw [← same]
    exact ⟨dot_not_mem_slashForm name, address_not_infix_slashForm name⟩
  · rintro ⟨noDot, noAddress⟩
    exact slashForm_eq_self noDot noAddress

theorem exists_slashForm_eq_iff {name : Text} :
    (∃ origin, slashForm origin = name) ↔ slashForm name = name := by
  constructor
  · rintro ⟨origin, rfl⟩
    exact slashForm_slashForm origin
  · intro same
    exact ⟨name, same⟩

/-! ## The kernel -/

/-- The characters that end a part of a name. -/
def separators : Text := ['.', '/']

/-- Two names that differ only where the slash form does not. -/
structure Alike (first second : Text) : Prop where
  length_eq : first.length = second.length
  /-- Where two characters differ, both are separators, or both are signs in front of `0x`. -/
  apart : ∀ position, ∀ left ∈ first[position]?, ∀ right ∈ second[position]?,
    left = right ∨ (left ∈ separators ∧ right ∈ separators) ∨
      (left ∈ signs ∧ right ∈ signs ∧ HexFollows first position ∧ HexFollows second position)

section

variable {first second : Text}

theorem mem_signs_of_mem_separators {character : Char} (separator : character ∈ separators) :
    character ∈ signs := by
  apply List.subset_def.mp _ separator
  decide

theorem Alike.symm (alike : Alike first second) : Alike second first := by
  constructor
  · exact alike.length_eq.symm
  · intro position left atLeft right atRight
    rcases alike.apart position right atRight left atLeft with
      same | ⟨rightSeparator, leftSeparator⟩ | ⟨rightSign, leftSign, rightHex, leftHex⟩
    · exact Or.inl same.symm
    · exact Or.inr (Or.inl ⟨leftSeparator, rightSeparator⟩)
    · exact Or.inr (Or.inr ⟨leftSign, rightSign, leftHex, rightHex⟩)

theorem Alike.getElem?_eq_some (alike : Alike first second) {letter : Char}
    (noSign : letter ∉ signs) {position : Nat} (found : first[position]? = some letter) :
    second[position]? = some letter := by
  have within : position < second.length := by
    rw [← alike.length_eq]
    exact (List.getElem?_eq_some_iff.mp found).choose
  rcases alike.apart position letter found second[position] (List.getElem?_eq_getElem within) with
    same | ⟨separator, _⟩ | ⟨sign, _⟩
  · rw [List.getElem?_eq_getElem within, same]
  · exact absurd (mem_signs_of_mem_separators separator) noSign
  · exact absurd sign noSign

theorem Alike.hexFollows (alike : Alike first second) {position : Nat}
    (follows : HexFollows first position) : HexFollows second position :=
  ⟨alike.getElem?_eq_some (by decide) follows.1, alike.getElem?_eq_some (by decide) follows.2⟩

theorem hexFollows_slashForm_iff {name : Text} {position : Nat} :
    HexFollows (slashForm name) position ↔ HexFollows name position := by
  rw [hexFollows_iff, hexFollows_iff, drop_slashForm, isPrefix_slashForm_iff hex_disjoint_signs]

/-- When `0x` follows two characters or neither of them, they become one if they are one, if both
are separators, or if both are signs and `0x` follows. -/
theorem slashCharacter_eq_slashCharacter_iff {left right : Char} {rest other : Text}
    (together : ['0', 'x'] <+: rest ↔ ['0', 'x'] <+: other) :
    slashCharacter left rest = slashCharacter right other ↔
      left = right ∨ (left ∈ separators ∧ right ∈ separators) ∨
        (left ∈ signs ∧ right ∈ signs ∧ ['0', 'x'] <+: rest) := by
  simp only [slashCharacter, ← together, separators, signs, List.mem_cons, List.not_mem_nil,
    or_false]
  by_cases hex : ['0', 'x'] <+: rest
  · simp only [hex, if_true, and_true]
    grind
  · simp only [hex, if_false, and_false, or_false]
    grind

/-- Two characters at one position become one exactly as `Alike` says, if `0x` follows both or
neither. -/
theorem getElem?_slashForm_eq_iff {position : Nat} {left right : Char}
    (atLeft : first[position]? = some left) (atRight : second[position]? = some right)
    (together : HexFollows first position ↔ HexFollows second position) :
    (slashForm first)[position]? = (slashForm second)[position]? ↔
      left = right ∨ (left ∈ separators ∧ right ∈ separators) ∨
        (left ∈ signs ∧ right ∈ signs ∧ HexFollows first position ∧
          HexFollows second position) := by
  have sameRest := together
  rw [hexFollows_iff, hexFollows_iff] at sameRest
  rw [getElem?_slashForm, getElem?_slashForm, atLeft, atRight, Option.map_some, Option.map_some,
    Option.some_inj, slashCharacter_eq_slashCharacter_iff sameRest, ← together, and_self,
    hexFollows_iff]

theorem Alike.of_slashForm_eq (same : slashForm first = slashForm second) :
    Alike first second := by
  constructor
  · rw [← length_slashForm first, same, length_slashForm]
  · intro position left atLeft right atRight
    have together : HexFollows first position ↔ HexFollows second position := by
      rw [← hexFollows_slashForm_iff, same, hexFollows_slashForm_iff]
    rw [← getElem?_slashForm_eq_iff atLeft atRight together, same]

theorem Alike.slashForm_eq (alike : Alike first second) : slashForm first = slashForm second := by
  apply List.ext_getElem?
  intro position
  by_cases within : position < first.length
  · have atLeft := List.getElem?_eq_getElem within
    have atRight := List.getElem?_eq_getElem (alike.length_eq ▸ within)
    rw [getElem?_slashForm_eq_iff atLeft atRight ⟨alike.hexFollows, alike.symm.hexFollows⟩]
    exact alike.apart position _ atLeft _ atRight
  · rw [List.getElem?_eq_none, List.getElem?_eq_none]
    · rw [length_slashForm, ← alike.length_eq]
      exact Nat.le_of_not_lt within
    · rw [length_slashForm]
      exact Nat.le_of_not_lt within

theorem slashForm_eq_iff_alike : slashForm first = slashForm second ↔ Alike first second := by
  constructor
  · exact Alike.of_slashForm_eq
  · exact Alike.slashForm_eq

end

/-- The slash form is a retraction onto the names without dots and addresses.  It takes two names to
one name, and so to one key of a table, if and only if they are alike. -/
theorem slashForm_retraction :
    (∀ name, slashForm (slashForm name) = slashForm name) ∧
      (∀ name, ((∃ origin, slashForm origin = name) ↔ slashForm name = name) ∧
        (slashForm name = name ↔ '.' ∉ name ∧ ¬address <:+: name)) ∧
      ∀ first second, (slashForm first = slashForm second ↔ Alike first second) ∧
        (Table.key (slashForm first) = Table.key (slashForm second) ↔ Alike first second) := by
  constructor
  · exact slashForm_slashForm
  constructor
  · intro name
    exact ⟨exists_slashForm_eq_iff, slashForm_eq_self_iff⟩
  · intro first second
    rw [Table.key_inj, slashForm_eq_iff_alike]
    exact ⟨Iff.rfl, Iff.rfl⟩

end ClassSizes.ClassName
