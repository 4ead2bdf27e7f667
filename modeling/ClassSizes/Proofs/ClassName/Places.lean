import ClassSizes.Proofs.ClassName
import ClassSizes.Record

/-!
# The slash form, place by place

Read at one place, the slash form is a local rule: what stands there depends on what stood there
before, and on whether the next two characters are `0x`.  Neither pass moves anything, so a text
without dots, slashes and plus signs occurs in a slash form where it occurs in the name, and
nowhere else.
-/

namespace ClassSizes

/-- Whether a pattern stands at a position of a text. -/
def OccursAt (pattern text : Text) (position : Nat) : Prop :=
  ∃ front back, text = front ++ (pattern ++ back) ∧ front.length = position

theorem occursAt_iff {pattern text : Text} {position : Nat} :
    OccursAt pattern text position ↔
      position ≤ text.length ∧ pattern <+: text.drop position := by
  constructor
  · rintro ⟨front, back, rfl, rfl⟩
    rw [List.drop_left, List.length_append]
    exact ⟨Nat.le_add_right _ _, List.prefix_append _ _⟩
  · rintro ⟨within, back, rest⟩
    refine ⟨text.take position, back, ?_, List.length_take_of_le within⟩
    rw [rest, List.take_append_drop]

theorem occursIn_iff_exists_occursAt {pattern text : Text} :
    occursIn pattern text = true ↔ ∃ position, OccursAt pattern text position := by
  rw [occursIn_iff]
  constructor
  · rintro ⟨front, back, rfl⟩
    exact ⟨front.length, front, back, List.append_assoc _ _ _, rfl⟩
  · rintro ⟨_, front, back, rfl, _⟩
    exact ⟨front, back, List.append_assoc _ _ _⟩

namespace ClassName

/-- Whether the two characters behind a position are `0x`. -/
def HexFollows (name : Text) (position : Nat) : Prop :=
  name[position + 1]? = some '0' ∧ name[position + 2]? = some 'x'

instance (name : Text) (position : Nat) : Decidable (HexFollows name position) :=
  inferInstanceAs (Decidable (_ ∧ _))

theorem isPrefix_hex_iff {rest : Text} :
    ['0', 'x'] <+: rest ↔ rest[0]? = some '0' ∧ rest[1]? = some 'x' := by
  match rest with
  | [] => simp
  | [first] => simp [List.cons_prefix_cons]
  | first :: second :: more => simp [List.cons_prefix_cons, eq_comm]

theorem hexFollows_iff {name : Text} {position : Nat} :
    HexFollows name position ↔ ['0', 'x'] <+: name.drop (position + 1) := by
  rw [isPrefix_hex_iff, List.getElem?_drop, List.getElem?_drop]
  rfl

theorem drop_slashForm (name : Text) (count : Nat) :
    (slashForm name).drop count = slashForm (name.drop count) := by
  induction name generalizing count with
  | nil => simp
  | cons character rest ih =>
      cases count with
      | zero => rfl
      | succ count => rw [slashForm_cons, List.drop_succ_cons, List.drop_succ_cons, ih]

theorem getElem?_slashForm (name : Text) (position : Nat) :
    (slashForm name)[position]? =
      name[position]?.map fun character => slashCharacter character (name.drop (position + 1)) := by
  induction name generalizing position with
  | nil => rfl
  | cons character rest ih =>
      rw [slashForm_cons]
      cases position with
      | zero => rfl
      | succ position => exact ih position

/-- The slash form neither moves nor makes a text without signs. -/
theorem occursAt_slashForm_iff {letters name : Text}
    (noSigns : ∀ letter ∈ letters, letter ∉ signs) (position : Nat) :
    OccursAt letters (slashForm name) position ↔ OccursAt letters name position := by
  rw [occursAt_iff, occursAt_iff, length_slashForm, drop_slashForm, isPrefix_slashForm_iff noSigns]

theorem isLambda_slashForm (name : Text) : isLambda (slashForm name) = isLambda name := by
  have noSigns : ∀ letter ∈ lambdaMark, letter ∉ signs := by simp [lambdaMark, signs]
  rw [Bool.eq_iff_iff, isLambda, isLambda, occursIn_iff_exists_occursAt,
    occursIn_iff_exists_occursAt]
  simp only [occursAt_slashForm_iff noSigns]

/-- The two passes are one: every character is replaced by one character, and which one that is can
be seen from it and from the two behind it.  What holds neither dots nor slashes nor plus signs
stays where it is, the mark of a lambda proxy among it. -/
theorem slashForm_placewise (name : Text) :
    (slashForm name).length = name.length ∧
      (∀ position, (slashForm name)[position]? =
        name[position]?.map fun character =>
          if character = '.' ∨ character = '/' then
            if HexFollows name position then '+' else '/'
          else character) ∧
      (∀ letters : Text, (∀ letter ∈ letters, letter ∉ signs) →
        ∀ position, OccursAt letters (slashForm name) position ↔ OccursAt letters name position) ∧
      ∀ size, Record.isLambda ⟨slashForm name, size⟩ = Record.isLambda ⟨name, size⟩ := by
  constructor
  · exact length_slashForm name
  constructor
  · intro position
    rw [getElem?_slashForm]
    simp only [slashCharacter, hexFollows_iff]
  constructor
  · intro letters noSigns position
    exact occursAt_slashForm_iff noSigns position
  · intro size
    exact isLambda_slashForm name

/-- A slash in front of an address, and a dot in front of half an address. -/
theorem slashForm_placewise_lambda_proxy :
    let name := "a.B$$Lambda./0x/0x.0".toList
    let letters := ['0', 'x']
    (∀ letter ∈ letters, letter ∉ signs) ∧
      slashForm name = "a/B$$Lambda/+0x+0x/0".toList ∧
      OccursAt letters (slashForm name) 16 ∧ ¬OccursAt letters (slashForm name) 19 ∧
      Record.isLambda ⟨slashForm name, ['8']⟩ = true := by
  intro name letters
  have noSigns : ∀ letter ∈ letters, letter ∉ signs := hex_disjoint_signs
  obtain ⟨_, _, occurrences, lambda⟩ := slashForm_placewise name
  refine ⟨noSigns, by decide, ?_, ?_, ?_⟩
  · rw [occurrences letters noSigns, occursAt_iff]
    decide
  · rw [occurrences letters noSigns, occursAt_iff]
    decide
  · rw [lambda]
    decide

end ClassName

end ClassSizes
