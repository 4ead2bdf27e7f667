import ClassSizes.Text.Utf8
import Mathlib.Algebra.Group.Nat.Defs
import Mathlib.Tactic.SplitIfs

/-!
# Decoding in parts

The decoder is an automaton, so the items of a joined byte string are those found in its first
part and those found from the state in which the first part leaves the decoder.  That state
matters only to a continuation byte: any other byte first ends the character under way as noise.
A byte string may therefore be cut in front of any byte that is not a continuation byte.

ASCII passes through the decoder unchanged, whatever noise surrounds it.  This needs the range of
the values that a state can still complete: it stays clear of ASCII, of the surrogates, and of
what lies above `U+10FFFF`.
-/

namespace ClassSizes.Utf8

/-! ## The items of a part -/

/-- The state in which a byte string leaves the decoder. -/
def stateAfter : State → Bytes → State
  | state, [] => state
  | state, byte :: rest => stateAfter (step state byte).2 rest

/-- The items found in a byte string that may go on. -/
def itemsUntil : State → Bytes → List Item
  | _, [] => []
  | state, byte :: rest => (step state byte).1 ++ itemsUntil (step state byte).2 rest

theorem itemsFrom_append (state : State) (first second : Bytes) :
    itemsFrom state (first ++ second) =
      itemsUntil state first ++ itemsFrom (stateAfter state first) second := by
  induction first generalizing state with
  | nil => rfl
  | cons byte rest ih => simp [itemsUntil, stateAfter, ih]

/-! ## What a state can complete -/

/-- All values that begin with `value` and have `due` more groups of six bits are scalar values
beyond ASCII. -/
def Spans (value due : Nat) : Prop :=
  0x80 ≤ value * 64 ^ due ∧ (value + 1) * 64 ^ due ≤ 0x110000 ∧
    ((value + 1) * 64 ^ due ≤ 0xD800 ∨ 0xE000 ≤ value * 64 ^ due)

theorem Spans.continue {value due bits : Nat} (spans : Spans value (due + 1))
    (small : bits < 64) : Spans (value * 64 + bits) due := by
  have lower : value * 64 ^ (due + 1) ≤ (value * 64 + bits) * 64 ^ due := by
    rw [Nat.pow_succ', ← Nat.mul_assoc]
    exact Nat.mul_le_mul_right _ (Nat.le_add_right _ _)
  have upper : (value * 64 + bits + 1) * 64 ^ due ≤ (value + 1) * 64 ^ (due + 1) := by
    rw [Nat.pow_succ', ← Nat.mul_assoc]
    exact Nat.mul_le_mul_right _ (by omega)
  obtain ⟨beyondAscii, withinUnicode, noSurrogate⟩ := spans
  refine ⟨by omega, by omega, ?_⟩
  rcases noSurrogate with below | above
  · exact Or.inl (by omega)
  · exact Or.inr (by omega)

theorem toNat_char {value : Nat} (valid : value.isValidChar) :
    (Char.ofNat value).toNat = value := by
  rw [Char.ofNat, dif_pos valid]
  rfl

/-- A value that is complete belongs to a character. -/
theorem Spans.toNat_ofNat {value : Nat} (spans : Spans value 0) :
    (Char.ofNat value).toNat = value := by
  apply toNat_char
  simp only [Spans, Nat.isValidChar] at spans ⊢
  omega

/-- The states that the decoder can be in: the next byte comes from a range of continuation bytes,
and each of them leads on to scalar values beyond ASCII. -/
def State.Sound : State → Prop
  | .start => True
  | .inside bits due low high =>
      0x80 ≤ low ∧ high ≤ 0xBF ∧
        ∀ byte, low ≤ byte → byte ≤ high → Spans (bits * 64 + byte % 64) (due - 1)

theorem sound_start : State.Sound .start :=
  trivial

theorem sound_of_lead {byte : UInt8} {state : State} (leads : lead byte = some state) :
    state.Sound := by
  simp only [lead] at leads
  -- One case for each range of leading bytes that the encoding tells apart.
  split_ifs at leads <;> cases leads
  all_goals
    refine ⟨by omega, by omega, fun byte low high => ?_⟩
    simp only [Spans]
    omega

theorem sound_begin (byte : UInt8) : (begin byte).2.Sound := by
  unfold begin
  split
  · trivial
  · cases leads : lead byte with
    | none => trivial
    | some state => exact sound_of_lead leads

theorem State.Sound.step {state : State} (sound : state.Sound) (byte : UInt8) :
    (Utf8.step state byte).2.Sound := by
  cases state with
  | start => exact sound_begin byte
  | inside bits due low high =>
      obtain ⟨_, _, ahead⟩ := sound
      simp only [Utf8.step]
      split
      case isFalse => exact sound_begin byte
      case isTrue within =>
        split
        · trivial
        case isFalse more =>
          obtain ⟨left, leftEq⟩ : ∃ left, due - 1 = left + 1 := ⟨due - 2, by omega⟩
          have spans := ahead byte.toNat within.1 within.2
          rw [leftEq] at spans ⊢
          exact ⟨Nat.le_refl _, Nat.le_refl _,
            fun next _ _ => spans.continue (Nat.mod_lt next (by omega))⟩

theorem State.Sound.stateAfter {state : State} (sound : state.Sound) (bytes : Bytes) :
    (Utf8.stateAfter state bytes).Sound := by
  induction bytes generalizing state with
  | nil => exact sound
  | cons byte rest ih => exact ih (sound.step byte)

/-! ## Cutting a byte string -/

/-- What can follow a cut: nothing, or a byte that does not continue a character. -/
def BeginsAfresh (bytes : Bytes) : Prop :=
  ∀ byte ∈ bytes.head?, byte.toNat < 0x80 ∨ 0xBF < byte.toNat

/-- A byte that does not continue a character ends the one under way as noise. -/
theorem itemsFrom_of_beginsAfresh {state : State} (sound : state.Sound) {bytes : Bytes}
    (afresh : BeginsAfresh bytes) :
    itemsFrom state bytes = finish state ++ itemsFrom .start bytes := by
  cases state with
  | start => rfl
  | inside bits due low high =>
      cases bytes with
      | nil => rfl
      | cons byte rest =>
          obtain ⟨lowBound, highBound, _⟩ := sound
          have outside : ¬(low ≤ byte.toNat ∧ byte.toNat ≤ high) := by
            have := afresh byte rfl
            omega
          simp [step, outside, finish]

/-- Decoding loses nothing and makes nothing up at a cut. -/
theorem decodeLossy_append {first second : Bytes} (afresh : BeginsAfresh second) :
    decodeLossy (first ++ second) = decodeLossy first ++ decodeLossy second := by
  have sound : (stateAfter .start first).Sound := sound_start.stateAfter first
  have firstItems := itemsFrom_append .start first []
  rw [List.append_nil, itemsFrom_nil] at firstItems
  simp only [decodeLossy, items]
  rw [itemsFrom_append, itemsFrom_of_beginsAfresh sound afresh, ← List.append_assoc,
    ← firstItems, List.filterMap_append]

/-- An ASCII byte is decoded as itself. -/
theorem decodeLossy_cons_of_ascii {byte : UInt8} (ascii : byte.toNat < 0x80) (rest : Bytes) :
    decodeLossy (byte :: rest) = Char.ofNat byte.toNat :: decodeLossy rest := by
  simp [decodeLossy, items, step, begin, ascii, Item.scalar?]

/-! ## ASCII in a decoded text -/

/-- The ASCII bytes of a text. -/
def asciiOf (text : Text) : Bytes :=
  (text.filter (·.toNat < 0x80)).map fun character => UInt8.ofNat character.toNat

theorem asciiOf_append (first second : Text) :
    asciiOf (first ++ second) = asciiOf first ++ asciiOf second := by
  simp [asciiOf]

theorem toNat_ofNat_of_ascii {byte : UInt8} (ascii : byte.toNat < 0x80) :
    (Char.ofNat byte.toNat).toNat = byte.toNat :=
  toNat_char (Or.inl (by omega))

theorem mem_asciiOf_iff {byte : UInt8} (ascii : byte.toNat < 0x80) (text : Text) :
    byte ∈ asciiOf text ↔ Char.ofNat byte.toNat ∈ text := by
  simp only [asciiOf, List.mem_map, List.mem_filter, decide_eq_true_eq]
  constructor
  · rintro ⟨character, ⟨member, small⟩, rfl⟩
    rw [UInt8.toNat_ofNat_of_lt' (Nat.lt_trans small (by decide)), Char.ofNat_toNat]
    exact member
  · intro member
    have value := toNat_ofNat_of_ascii ascii
    refine ⟨Char.ofNat byte.toNat, ⟨member, by omega⟩, ?_⟩
    rw [value, UInt8.ofNat_toNat]

theorem asciiOf_begin (byte : UInt8) :
    asciiOf ((begin byte).1.filterMap Item.scalar?) = [byte].filter (·.toNat < 0x80) := by
  unfold begin
  split
  case isTrue ascii =>
    simp [asciiOf, Item.scalar?, toNat_ofNat_of_ascii ascii, ascii]
  case isFalse wide =>
    cases lead byte <;> simp [asciiOf, Item.scalar?, wide]

/-- A step of the decoder passes an ASCII byte on, and makes no ASCII of any other. -/
theorem asciiOf_step {state : State} (sound : state.Sound) (byte : UInt8) :
    asciiOf ((step state byte).1.filterMap Item.scalar?) = [byte].filter (·.toNat < 0x80) := by
  cases state with
  | start => exact asciiOf_begin byte
  | inside bits due low high =>
      obtain ⟨lowBound, _, ahead⟩ := sound
      simp only [step]
      split
      case isFalse =>
        rw [List.filterMap_cons_none (by rfl)]
        exact asciiOf_begin byte
      case isTrue within =>
        have wide : ¬byte.toNat < 0x80 := by omega
        split
        case isFalse => simp [asciiOf, wide]
        case isTrue last =>
          have spans := ahead byte.toNat within.1 within.2
          rw [Nat.sub_eq_zero_of_le last] at spans
          have beyond : ¬bits * 64 + byte.toNat % 64 < 0x80 := by
            simp only [Spans] at spans
            omega
          simp [asciiOf, Item.scalar?, spans.toNat_ofNat, beyond, wide]

theorem asciiOf_itemsFrom {state : State} (sound : state.Sound) (bytes : Bytes) :
    asciiOf ((itemsFrom state bytes).filterMap Item.scalar?) =
      bytes.filter (·.toNat < 0x80) := by
  induction bytes generalizing state with
  | nil => cases state <;> rfl
  | cons byte rest ih =>
      rw [itemsFrom_cons, List.filterMap_append, asciiOf_append, asciiOf_step sound,
        ih (sound.step byte), ← List.filter_append]
      rfl

/-- Decoding keeps the ASCII bytes of a byte string, all of them and in order. -/
theorem asciiOf_decodeLossy (bytes : Bytes) :
    asciiOf (decodeLossy bytes) = bytes.filter (·.toNat < 0x80) :=
  asciiOf_itemsFrom sound_start bytes

/-- An ASCII character is decoded exactly when its byte is there. -/
theorem mem_decodeLossy_iff {byte : UInt8} (ascii : byte.toNat < 0x80) (bytes : Bytes) :
    Char.ofNat byte.toNat ∈ decodeLossy bytes ↔ byte ∈ bytes := by
  rw [← mem_asciiOf_iff ascii, asciiOf_decodeLossy, List.mem_filter, decide_eq_true_eq]
  exact and_iff_left ascii

end ClassSizes.Utf8
