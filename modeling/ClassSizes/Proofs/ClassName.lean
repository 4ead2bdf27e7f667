import ClassSizes.ClassName
import Mathlib.Data.List.Infix

/-!
# The slash form, character by character

The slash form is made in two passes, of which the second replaces whole substrings.  Both together
take every character to one character, which depends on nothing but the two characters after it
(`slashForm_cons`).  What a slash form looks like follows by induction: it has no dot, and no slash
in front of `0x`, although the first pass may have made such a slash.
-/

namespace ClassSizes

/-- A text is left alone if there is nothing to replace. -/
theorem replaceAll_of_not_infix {pattern substitute text : Text} (absent : ¬pattern <:+: text) :
    replaceAll pattern substitute text = text := by
  induction text with
  | nil => rfl
  | cons character rest ih =>
      rw [List.infix_cons_iff, not_or] at absent
      obtain ⟨notHere, notLater⟩ := absent
      rw [← List.isPrefixOf_iff_prefix] at notHere
      rw [replaceAll, replaceFrom, if_neg notHere, ← replaceAll, ih notLater]

/-- A single character is replaced in place. -/
theorem replaceAll_singleton (old new : Char) (text : Text) :
    replaceAll [old] [new] text =
      text.map fun character => if character = old then new else character := by
  induction text with
  | nil => rfl
  | cons character rest ih =>
      rw [List.map_cons, ← ih, replaceAll, replaceFrom]
      by_cases same : character = old
      · subst same
        simp [replaceAll]
      · have other : ¬old = character := fun eq => same eq.symm
        simp [same, other, replaceAll]

namespace ClassName

/-- What the slash form makes of a character in front of `rest`. -/
def slashCharacter (character : Char) (rest : Text) : Char :=
  if character = '.' ∨ character = '/' then
    if ['0', 'x'] <+: rest then '+' else '/'
  else character

/-- The second pass changes only the first character of what it replaces: what follows a slash in
an address cannot begin another one. -/
theorem replaceAll_address_cons (character : Char) (rest : Text) :
    replaceAll address plusAddress (character :: rest) =
      (if character = '/' ∧ ['0', 'x'] <+: rest then '+' else character) ::
        replaceAll address plusAddress rest := by
  by_cases found : character = '/' ∧ ['0', 'x'] <+: rest
  · obtain ⟨rfl, more, rfl⟩ := found
    simp [replaceAll, replaceFrom, address, plusAddress]
  · have notHere : ¬address.isPrefixOf (character :: rest) = true := by
      rw [List.isPrefixOf_iff_prefix, address, List.cons_prefix_cons, eq_comm]
      exact found
    rw [if_neg found, replaceAll, replaceFrom, if_neg notHere, ← replaceAll]

/-- The first pass leaves the characters of an address behind its slash alone. -/
theorem isPrefix_map_slash_iff (rest : Text) :
    ['0', 'x'] <+: (rest.map fun character => if character = '.' then '/' else character) ↔
      ['0', 'x'] <+: rest := by
  have fixes (letter character : Char) (other : letter ≠ '/') (noDot : letter ≠ '.') :
      letter = (if character = '.' then '/' else character) ↔ letter = character := by
    split
    · next dot => simp [dot, other, noDot]
    · rfl
  match rest with
  | [] => simp
  | [first] => simp [List.cons_prefix_cons]
  | first :: second :: more =>
      simp only [List.map_cons, List.cons_prefix_cons, List.nil_prefix, and_true]
      rw [fixes '0' first (by decide) (by decide), fixes 'x' second (by decide) (by decide)]

@[simp]
theorem slashForm_nil : slashForm [] = [] :=
  rfl

/-- The slash form goes from character to character. -/
theorem slashForm_cons (character : Char) (rest : Text) :
    slashForm (character :: rest) = slashCharacter character rest :: slashForm rest := by
  rw [slashForm, slashForm, replaceAll_singleton, replaceAll_singleton, List.map_cons,
    replaceAll_address_cons, slashCharacter]
  simp only [isPrefix_map_slash_iff]
  congr 1
  by_cases dot : character = '.'
  · simp [dot]
  · simp only [dot, if_false, false_or]
    by_cases slash : character = '/' <;> simp [slash]

@[simp]
theorem length_slashForm (name : Text) : (slashForm name).length = name.length := by
  induction name with
  | nil => rfl
  | cons character rest ih => rw [slashForm_cons, List.length_cons, List.length_cons, ih]

/-! ## What a slash form looks like -/

theorem slashCharacter_ne_dot (character : Char) (rest : Text) :
    slashCharacter character rest ≠ '.' := by
  unfold slashCharacter
  split
  · split <;> decide
  · next neither => exact fun dot => neither (Or.inl dot)

/-- The characters that the slash form takes away or puts in. -/
def signs : Text := ['.', '/', '+']

/-- Any other character stays, and is never new. -/
theorem slashCharacter_eq_iff {character letter : Char} {rest : Text} (noSign : letter ∉ signs) :
    slashCharacter character rest = letter ↔ character = letter := by
  simp only [signs, List.mem_cons, List.not_mem_nil, or_false, not_or] at noSign
  obtain ⟨notDot, notSlash, notPlus⟩ := noSign
  unfold slashCharacter
  constructor
  · intro same
    split at same
    · split at same
      · exact absurd same.symm notPlus
      · exact absurd same.symm notSlash
    · exact same
  · rintro rfl
    rw [if_neg (not_or.mpr ⟨notDot, notSlash⟩)]

theorem hex_disjoint_signs : ∀ letter ∈ ['0', 'x'], letter ∉ signs := by
  simp [signs]

/-- What holds no sign begins a slash form if and only if it begins the name. -/
theorem isPrefix_slashForm_iff {letters name : Text}
    (noSigns : ∀ letter ∈ letters, letter ∉ signs) :
    letters <+: slashForm name ↔ letters <+: name := by
  induction letters generalizing name with
  | nil => simp
  | cons letter letters ih =>
      rw [List.forall_mem_cons] at noSigns
      cases name with
      | nil => simp
      | cons character rest =>
          rw [slashForm_cons, List.cons_prefix_cons, List.cons_prefix_cons, ih noSigns.2, eq_comm,
            slashCharacter_eq_iff noSigns.1, eq_comm]

/-- No slash is left in front of `0x`. -/
theorem slashCharacter_ne_slash {character : Char} {rest : Text} (begins : ['0', 'x'] <+: rest) :
    slashCharacter character rest ≠ '/' := by
  rw [slashCharacter, if_pos begins]
  split
  · decide
  · next neither => exact fun slash => neither (Or.inr slash)

theorem dot_not_mem_slashForm (name : Text) : '.' ∉ slashForm name := by
  induction name with
  | nil => simp
  | cons character rest ih =>
      rw [slashForm_cons, List.mem_cons, not_or]
      exact ⟨(slashCharacter_ne_dot character rest).symm, ih⟩

theorem address_not_infix_slashForm (name : Text) : ¬address <:+: slashForm name := by
  induction name with
  | nil => simp [address]
  | cons character rest ih =>
      rw [slashForm_cons, List.infix_cons_iff, not_or]
      refine ⟨fun begins => ?_, ih⟩
      rw [address, List.cons_prefix_cons] at begins
      obtain ⟨slash, begins⟩ := begins
      rw [isPrefix_slashForm_iff hex_disjoint_signs] at begins
      exact slashCharacter_ne_slash begins slash.symm

/-- What the characters of a name share with the slash and the plus sign, those of its slash form
share too. -/
theorem forall_mem_slashForm {property : Char → Prop} (slash : property '/') (plus : property '+')
    {name : Text} (shared : ∀ character ∈ name, property character) :
    ∀ character ∈ slashForm name, property character := by
  induction name with
  | nil => simp
  | cons character rest ih =>
      rw [List.forall_mem_cons] at shared
      rw [slashForm_cons, List.forall_mem_cons]
      refine ⟨?_, ih shared.2⟩
      unfold slashCharacter
      split
      · split
        · exact plus
        · exact slash
      · exact shared.1

/-- A name without dots and addresses is its own slash form. -/
theorem slashForm_eq_self {name : Text} (noDot : '.' ∉ name) (noAddress : ¬address <:+: name) :
    slashForm name = name := by
  have undotted : replaceAll ['.'] ['/'] name = name :=
    replaceAll_of_not_infix fun dotted => noDot (dotted.subset List.mem_cons_self)
  rw [slashForm, undotted, replaceAll_of_not_infix noAddress]

/-- The first pass makes the slash of the second address. -/
example : slashForm "a/0x.0x".toList = "a+0x+0x".toList := by
  decide

end ClassName

end ClassSizes
