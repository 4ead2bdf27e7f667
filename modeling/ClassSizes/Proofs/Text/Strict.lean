import ClassSizes.Proofs.Text.Encoding

/-!
# Strict decoding

A byte string is read as a text only if it is the encoding of that text: nothing overlong, no
surrogate and nothing cut short is let through.  What carries this along the automaton is that a
state inside a character fixes the bytes that have been read of it (`State.HasRead`).
-/

namespace ClassSizes.Utf8

/-! ## The bytes of the character under way -/

/-- The last bytes of the encoding of a value, `due` in number. -/
def continuations (value : Nat) : Nat → Bytes
  | 0 => []
  | due + 1 => UInt8.ofNat (0x80 + value / 64 ^ due % 64) :: continuations value due

/-- What has been read of the character under way: every value that the state can still complete is
encoded by these bytes and the ones that are due. -/
def State.HasRead : State → Bytes → Prop
  | .start, read => read = []
  | .inside bits due low high, read =>
      1 ≤ due ∧ ∀ value, value / 64 ^ due = bits → low ≤ 0x80 + value / 64 ^ (due - 1) % 64 →
        0x80 + value / 64 ^ (due - 1) % 64 ≤ high →
        encodeChar (Char.ofNat value) = read ++ continuations value due

theorem eq_ofNat {byte : UInt8} {value : Nat} (same : byte.toNat = value) :
    byte = UInt8.ofNat value := by
  rw [← same, UInt8.ofNat_toNat]

theorem encodeChar_two {value : Nat} (lower : 0x80 ≤ value) (upper : value < 0x800) :
    encodeChar (Char.ofNat value) = UInt8.ofNat (0xC0 + value / 64) :: continuations value 1 := by
  simp [encodeChar, toNat_char (Or.inl (show value < 0xD800 by omega)), Nat.not_lt.mpr lower, upper,
    continuations]

theorem encodeChar_three {value : Nat} (lower : 0x800 ≤ value) (upper : value < 0x10000)
    (scalar : value < 0xD800 ∨ 0xDFFF < value) :
    encodeChar (Char.ofNat value) = UInt8.ofNat (0xE0 + value / 4096) :: continuations value 2 := by
  simp [encodeChar, toNat_char (show value < 0xD800 ∨ 0xDFFF < value ∧ value < 0x110000 by omega),
    show ¬value < 0x80 by omega, Nat.not_lt.mpr lower, upper, continuations]

theorem encodeChar_four {value : Nat} (lower : 0x10000 ≤ value) (upper : value < 0x110000) :
    encodeChar (Char.ofNat value) =
      UInt8.ofNat (0xF0 + value / 262144) :: continuations value 3 := by
  simp [encodeChar, toNat_char (show value < 0xD800 ∨ 0xDFFF < value ∧ value < 0x110000 by omega),
    show ¬value < 0x80 by omega, show ¬value < 0x800 by omega, Nat.not_lt.mpr lower, continuations]

theorem hasRead_of_lead {byte : UInt8} {state : State} (leads : lead byte = some state) :
    state.HasRead [byte] := by
  simp only [lead] at leads
  -- One case for each range of leading bytes that the encoding tells apart.
  split_ifs at leads <;> cases leads
  all_goals
    refine ⟨by omega, fun value front low high => ?_⟩
    simp only [Nat.reducePow, Nat.reduceSub] at front low high
  case pos =>
    rw [eq_ofNat (show byte.toNat = 0xC0 + value / 64 by omega)]
    exact encodeChar_two (by omega) (by omega)
  iterate 3
    case pos =>
      rw [eq_ofNat (show byte.toNat = 0xE0 + value / 4096 by omega)]
      exact encodeChar_three (by omega) (by omega) (by omega)
  all_goals
    rw [eq_ofNat (show byte.toNat = 0xF0 + value / 262144 by omega)]
    exact encodeChar_four (by omega) (by omega)

/-- A continuation byte within the range that is due is the next byte of the encoding. -/
theorem eq_ofNat_of_continuation {byte : UInt8} {value : Nat} (lower : 0x80 ≤ byte.toNat)
    (upper : byte.toNat ≤ 0xBF) (bits : value % 64 = byte.toNat % 64) :
    UInt8.ofNat (0x80 + value % 64) = byte :=
  (eq_ofNat (by omega)).symm

theorem State.HasRead.continue {bits due low high : Nat} {read : Bytes}
    (hasRead : (State.inside bits (due + 2) low high).HasRead read) {byte : UInt8}
    (within : low ≤ byte.toNat ∧ byte.toNat ≤ high) (lower : 0x80 ≤ byte.toNat)
    (upper : byte.toNat ≤ 0xBF) :
    (State.inside (bits * 64 + byte.toNat % 64) (due + 1) 0x80 0xBF).HasRead (read ++ [byte]) := by
  refine ⟨Nat.le_add_left 1 due, fun value front _ _ => ?_⟩
  have before : value / 64 ^ (due + 2) = bits := by
    rw [Nat.pow_succ, ← Nat.div_div_eq_div_mul, front]
    omega
  have last : value / 64 ^ (due + 1) % 64 = byte.toNat % 64 := by
    rw [front]
    omega
  rw [hasRead.2 value before (by simp only [Nat.add_one_sub_one]; omega)
      (by simp only [Nat.add_one_sub_one]; omega), continuations,
    eq_ofNat_of_continuation lower upper last, List.append_assoc, List.singleton_append]

/-- A byte that completes a character is the last one of its encoding. -/
theorem State.HasRead.complete {bits low high : Nat} {read : Bytes}
    (hasRead : (State.inside bits 1 low high).HasRead read) {byte : UInt8}
    (within : low ≤ byte.toNat ∧ byte.toNat ≤ high) (lower : 0x80 ≤ byte.toNat)
    (upper : byte.toNat ≤ 0xBF) :
    encodeChar (Char.ofNat (bits * 64 + byte.toNat % 64)) = read ++ [byte] := by
  have last : (bits * 64 + byte.toNat % 64) % 64 = byte.toNat % 64 := by omega
  rw [hasRead.2 _ (by omega) (by simp only [Nat.sub_self, Nat.pow_zero, Nat.div_one]; omega)
      (by simp only [Nat.sub_self, Nat.pow_zero, Nat.div_one]; omega), continuations, continuations,
    Nat.pow_zero, Nat.div_one, eq_ofNat_of_continuation lower upper last]

/-! ## The bytes of what is found -/

/-- A character that is found is the one whose encoding has been read. -/
theorem exists_of_itemsFrom_eq_cons {state : State} (sound : state.Sound) {read bytes : Bytes}
    (hasRead : state.HasRead read) {character : Char} {later : List Item}
    (found : itemsFrom state bytes = .scalar character :: later) :
    ∃ rest, read ++ bytes = encodeChar character ++ rest ∧ itemsFrom .start rest = later := by
  -- What has been read of the character under way goes along until it is complete.
  induction bytes generalizing state read with
  | nil => cases state <;> simp [finish] at found
  | cons byte rest ih =>
      have next := sound.step byte
      rw [itemsFrom_cons] at found
      cases state with
      | start =>
          obtain rfl : read = [] := hasRead
          simp only [step, begin] at found next
          split at found
          case isTrue ascii =>
            simp only [List.singleton_append, List.cons.injEq, Item.scalar.injEq] at found
            obtain ⟨rfl, rfl⟩ := found
            refine ⟨rest, ?_, rfl⟩
            simp [encodeChar, toNat_ofNat_of_ascii ascii, ascii]
          case isFalse wide =>
            rw [if_neg wide] at next
            cases leads : lead byte with
            | none => simp [leads] at found
            | some state =>
                rw [leads] at found next
                exact ih next (hasRead_of_lead leads) found
      | inside bits due low high =>
          obtain ⟨lowBound, highBound, _⟩ := sound
          simp only [step] at found next
          split at found
          case isFalse => simp at found
          case isTrue within =>
            rw [if_pos within] at next
            have lower := Nat.le_trans lowBound within.1
            have upper := Nat.le_trans within.2 highBound
            rcases due with _ | _ | due
            · exact absurd hasRead.1 (Nat.not_succ_le_zero 0)
            · simp only [Nat.zero_add, Nat.le_refl, if_true, List.singleton_append,
                List.cons.injEq, Item.scalar.injEq] at found
              obtain ⟨rfl, rfl⟩ := found
              exact ⟨rest, by simp [hasRead.complete within lower upper], rfl⟩
            · rw [if_neg (by omega)] at found next
              obtain ⟨after, joined, others⟩ :=
                ih next (hasRead.continue within lower upper) found
              exact ⟨after, by simpa using joined, others⟩

/-- A byte string that begins with a character begins with its encoding. -/
theorem exists_of_items_eq_cons {bytes : Bytes} {character : Char} {later : List Item}
    (found : items bytes = .scalar character :: later) :
    ∃ rest, bytes = encodeChar character ++ rest ∧ items rest = later :=
  exists_of_itemsFrom_eq_cons sound_start rfl found

/-- A character under way is found or becomes noise. -/
theorem itemsFrom_inside_ne_nil (bits due low high : Nat) (bytes : Bytes) :
    itemsFrom (.inside bits due low high) bytes ≠ [] := by
  induction bytes generalizing bits due low high with
  | nil => simp [finish]
  | cons byte rest ih =>
      simp only [itemsFrom_cons, step]
      split
      · split
        · simp
        · exact ih _ _ _ _
      · simp

theorem eq_nil_of_items_eq_nil {bytes : Bytes} (nothing : items bytes = []) : bytes = [] := by
  cases bytes with
  | nil => rfl
  | cons byte rest =>
      simp only [items, itemsFrom_cons, step, begin] at nothing
      split at nothing
      · simp at nothing
      · cases leads : lead byte with
        | none => simp [leads] at nothing
        | some state =>
            cases state with
            | start => exact absurd (hasRead_of_lead leads) (List.cons_ne_nil byte [])
            | inside bits due low high =>
                rw [leads] at nothing
                exact absurd nothing (itemsFrom_inside_ne_nil bits due low high rest)

/-- Bytes that hold nothing but the characters of a text are its encoding. -/
theorem eq_encode_of_items_eq {bytes : Bytes} {text : Text}
    (found : items bytes = text.map .scalar) : bytes = encode text := by
  induction text generalizing bytes with
  | nil => exact eq_nil_of_items_eq_nil found
  | cons character text ih =>
      obtain ⟨rest, rfl, others⟩ := exists_of_items_eq_cons found
      rw [encode_cons, ← ih others]

theorem eq_map_scalar {found : List Item} (valid : found.all (·.scalar?.isSome) = true) :
    found = (found.filterMap Item.scalar?).map .scalar := by
  induction found with
  | nil => rfl
  | cons item rest ih =>
      rw [List.all_cons, Bool.and_eq_true] at valid
      cases item with
      | noise => exact absurd valid.1 (by decide)
      | scalar character => simpa [Item.scalar?] using ih valid.2

/-- A byte string is read as a text exactly when it is the encoding of that text. -/
theorem decode?_eq_some_iff {bytes : Bytes} {text : Text} :
    decode? bytes = some text ↔ bytes = encode text := by
  constructor
  · intro decoded
    obtain ⟨valid, isText⟩ := Option.ite_none_right_eq_some.mp decoded
    obtain rfl : decodeLossy bytes = text := Option.some.inj isText
    exact eq_encode_of_items_eq (eq_map_scalar valid)
  · rintro rfl
    simp [decode?]

end ClassSizes.Utf8
