import ClassSizes.Proofs.Text.Decoding

/-!
# Encoding and decoding

The decoder reads the encoding of a text as that text, whatever follows it.  An encoding is
therefore valid, no two texts share one, and its ASCII bytes are those of the ASCII characters of
the text.
-/

namespace ClassSizes.Utf8

/-! ## The bytes of one character -/

theorem toNat_valid (character : Char) :
    character.toNat < 0xD800 ∨ 0xDFFF < character.toNat ∧ character.toNat < 0x110000 :=
  character.valid

theorem toNat_ofNat {value : Nat} (small : value < 256) : (UInt8.ofNat value).toNat = value :=
  UInt8.toNat_ofNat_of_lt' small

/-- A byte that continues a character carries the last six bits of its value. -/
theorem toNat_continuation (bits : Nat) :
    (UInt8.ofNat (0x80 + bits % 64)).toNat = 0x80 + bits % 64 :=
  toNat_ofNat (by omega)

theorem itemsFrom_start_of_lead {byte : UInt8} {state : State} (wide : 0x80 ≤ byte.toNat)
    (leads : lead byte = some state) (rest : Bytes) :
    itemsFrom .start (byte :: rest) = itemsFrom state rest := by
  simp [step, begin, Nat.not_lt.mpr wide, leads]

/-- A continuation byte within the range that is due adds its six bits. -/
theorem itemsFrom_inside_continuation {value due low high : Nat} (more : 2 ≤ due)
    (lower : low ≤ 0x80 + value % 64) (upper : 0x80 + value % 64 ≤ high) (rest : Bytes) :
    itemsFrom (.inside (value / 64) due low high) (UInt8.ofNat (0x80 + value % 64) :: rest) =
      itemsFrom (.inside value (due - 1) 0x80 0xBF) rest := by
  have joined : value / 64 * 64 + (0x80 + value % 64) % 64 = value := by omega
  simp only [itemsFrom_cons, step, toNat_continuation, if_pos (And.intro lower upper), joined,
    if_neg (show ¬due ≤ 1 by omega), List.nil_append]

/-- The last continuation byte completes the character. -/
theorem itemsFrom_inside_last {value low high : Nat}
    (lower : low ≤ 0x80 + value % 64) (upper : 0x80 + value % 64 ≤ high) (rest : Bytes) :
    itemsFrom (.inside (value / 64) 1 low high) (UInt8.ofNat (0x80 + value % 64) :: rest) =
      .scalar (Char.ofNat value) :: itemsFrom .start rest := by
  have joined : value / 64 * 64 + (0x80 + value % 64) % 64 = value := by omega
  simp only [itemsFrom_cons, step, toNat_continuation, if_pos (And.intro lower upper), joined,
    Nat.le_refl, if_true, List.singleton_append]

/-- The leading byte of three announces a range that holds the second one; the ranges after `E0`
and `ED` are narrower. -/
theorem lead_of_three {value : Nat} (lower : 0x800 ≤ value) (upper : value < 0x10000)
    (scalar : value < 0xD800 ∨ 0xDFFF < value) :
    ∃ low high, lead (UInt8.ofNat (0xE0 + value / 4096)) =
        some (.inside (value / 4096) 2 low high) ∧
      low ≤ 0x80 + value / 64 % 64 ∧ 0x80 + value / 64 % 64 ≤ high := by
  have byte : (UInt8.ofNat (0xE0 + value / 4096)).toNat = 0xE0 + value / 4096 :=
    toNat_ofNat (by omega)
  by_cases overlong : value / 4096 = 0
  · refine ⟨0xA0, 0xBF, ?_, by omega, by omega⟩
    simp [lead, overlong]
  · by_cases surrogate : value / 4096 = 0xD
    · refine ⟨0x80, 0x9F, ?_, by omega, by omega⟩
      simp [lead, surrogate]
    · refine ⟨0x80, 0xBF, ?_, by omega, by omega⟩
      simp only [lead, byte]
      rw [if_neg (by omega), if_neg (by omega), if_neg (by omega), if_pos (by omega),
        Nat.add_sub_cancel_left]

/-- The leading byte of four announces a range that holds the second one; the ranges after `F0`
and `F4` are narrower. -/
theorem lead_of_four {value : Nat} (lower : 0x10000 ≤ value) (upper : value < 0x110000) :
    ∃ low high, lead (UInt8.ofNat (0xF0 + value / 262144)) =
        some (.inside (value / 262144) 3 low high) ∧
      low ≤ 0x80 + value / 4096 % 64 ∧ 0x80 + value / 4096 % 64 ≤ high := by
  have byte : (UInt8.ofNat (0xF0 + value / 262144)).toNat = 0xF0 + value / 262144 :=
    toNat_ofNat (by omega)
  by_cases overlong : value / 262144 = 0
  · refine ⟨0x90, 0xBF, ?_, by omega, by omega⟩
    simp [lead, overlong]
  · by_cases last : value / 262144 = 4
    · refine ⟨0x80, 0x8F, ?_, by omega, by omega⟩
      simp [lead, last]
    · refine ⟨0x80, 0xBF, ?_, by omega, by omega⟩
      simp only [lead, byte]
      rw [if_neg (by omega), if_neg (by omega), if_neg (by omega), if_neg (by omega),
        if_neg (by omega), if_pos (by omega), Nat.add_sub_cancel_left]

theorem itemsFrom_two {value : Nat} (lower : 0x80 ≤ value) (upper : value < 0x800)
    (rest : Bytes) :
    itemsFrom .start
        (UInt8.ofNat (0xC0 + value / 64) :: UInt8.ofNat (0x80 + value % 64) :: rest) =
      .scalar (Char.ofNat value) :: itemsFrom .start rest := by
  have byte : (UInt8.ofNat (0xC0 + value / 64)).toNat = 0xC0 + value / 64 :=
    toNat_ofNat (by omega)
  have leads : lead (UInt8.ofNat (0xC0 + value / 64)) =
      some (.inside (value / 64) 1 0x80 0xBF) := by
    simp only [lead, byte]
    rw [if_pos (by omega), Nat.add_sub_cancel_left]
  rw [itemsFrom_start_of_lead (by omega) leads]
  exact itemsFrom_inside_last (by omega) (by omega) rest

theorem itemsFrom_three {value : Nat} (lower : 0x800 ≤ value) (upper : value < 0x10000)
    (scalar : value < 0xD800 ∨ 0xDFFF < value) (rest : Bytes) :
    itemsFrom .start
        (UInt8.ofNat (0xE0 + value / 4096) :: UInt8.ofNat (0x80 + value / 64 % 64) ::
          UInt8.ofNat (0x80 + value % 64) :: rest) =
      .scalar (Char.ofNat value) :: itemsFrom .start rest := by
  have byte : (UInt8.ofNat (0xE0 + value / 4096)).toNat = 0xE0 + value / 4096 :=
    toNat_ofNat (by omega)
  obtain ⟨low, high, leads, lowBound, highBound⟩ := lead_of_three lower upper scalar
  rw [itemsFrom_start_of_lead (by omega) leads,
    show value / 4096 = value / 64 / 64 by omega,
    itemsFrom_inside_continuation (Nat.le_refl 2) lowBound highBound]
  exact itemsFrom_inside_last (by omega) (by omega) rest

theorem itemsFrom_four {value : Nat} (lower : 0x10000 ≤ value) (upper : value < 0x110000)
    (rest : Bytes) :
    itemsFrom .start
        (UInt8.ofNat (0xF0 + value / 262144) :: UInt8.ofNat (0x80 + value / 4096 % 64) ::
          UInt8.ofNat (0x80 + value / 64 % 64) :: UInt8.ofNat (0x80 + value % 64) :: rest) =
      .scalar (Char.ofNat value) :: itemsFrom .start rest := by
  have byte : (UInt8.ofNat (0xF0 + value / 262144)).toNat = 0xF0 + value / 262144 :=
    toNat_ofNat (by omega)
  obtain ⟨low, high, leads, lowBound, highBound⟩ := lead_of_four lower upper
  rw [itemsFrom_start_of_lead (by omega) leads,
    show value / 262144 = value / 4096 / 64 by omega,
    itemsFrom_inside_continuation (by omega) lowBound highBound,
    show value / 4096 = value / 64 / 64 by omega,
    itemsFrom_inside_continuation (by omega) (by omega) (by omega)]
  exact itemsFrom_inside_last (by omega) (by omega) rest

/-- The encoding of a character is read as that character. -/
theorem itemsFrom_encodeChar_append (character : Char) (rest : Bytes) :
    itemsFrom .start (encodeChar character ++ rest) =
      .scalar character :: itemsFrom .start rest := by
  have valid := toNat_valid character
  have restored := Char.ofNat_toNat character
  simp only [encodeChar]
  generalize character.toNat = value at valid restored
  rw [← restored]
  by_cases one : value < 0x80
  · have byte : (UInt8.ofNat value).toNat = value := toNat_ofNat (by omega)
    simp [step, begin, byte, one]
  · rw [if_neg one]
    by_cases two : value < 0x800
    · simpa [two] using itemsFrom_two (by omega) two rest
    · rw [if_neg two]
      by_cases three : value < 0x10000
      · simpa [three] using itemsFrom_three (by omega) three (by omega) rest
      · simpa [three] using itemsFrom_four (by omega) (by omega) rest

/-- Encodings are told apart by their beginnings. -/
theorem eq_of_encodeChar_append {first second : Char} {rest other : Bytes}
    (same : encodeChar first ++ rest = encodeChar second ++ other) : first = second := by
  have read := congrArg (itemsFrom .start) same
  rw [itemsFrom_encodeChar_append, itemsFrom_encodeChar_append] at read
  injection read with head _
  injection head

/-! ## The encoding of a text -/

/-- A text in front of other bytes is read as its characters. -/
theorem itemsFrom_encode_append (text : Text) (rest : Bytes) :
    itemsFrom .start (encode text ++ rest) = text.map .scalar ++ itemsFrom .start rest := by
  induction text with
  | nil => rfl
  | cons character text ih =>
      rw [encode_cons, List.append_assoc, itemsFrom_encodeChar_append, ih]
      rfl

theorem items_encode (text : Text) : items (encode text) = text.map .scalar := by
  simpa [items, finish] using itemsFrom_encode_append text []

@[simp]
theorem decodeLossy_encode (text : Text) : decodeLossy (encode text) = text := by
  rw [decodeLossy, items_encode, List.filterMap_map]
  exact List.filterMap_some

@[simp]
theorem isValid_encode (text : Text) : isValid (encode text) = true := by
  rw [isValid, items_encode]
  simp [Item.scalar?]

theorem encode_injective : Function.Injective encode := fun first second same => by
  simpa using congrArg decodeLossy same

/-- An ASCII byte stands in an encoding exactly when its character stands in the text. -/
theorem mem_encode_iff {byte : UInt8} (ascii : byte.toNat < 0x80) (text : Text) :
    byte ∈ encode text ↔ Char.ofNat byte.toNat ∈ text := by
  rw [← mem_decodeLossy_iff ascii, decodeLossy_encode]

end ClassSizes.Utf8
