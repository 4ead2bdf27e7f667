import ClassSizes.Proofs.Csv.Codec
import ClassSizes.Proofs.Report.Canonical
import Mathlib.Data.Nat.Digits.Defs

/-!
# Sizes as numbers

A size is read as a number digit by digit, and given up as soon as the number passes the limit of
64 bits.  No later digit brings a number back under the limit, so giving up early loses nothing:
the sizes that have a value are the numerals whose value, taken as a number of any size, is within
the limit.

The sizes of a report are runs of decimal digits of any script, without a sign.  Those in ASCII
digits are numerals; one digit of another script makes a size that has no value.
-/

namespace ClassSizes

namespace Size

theorem limit_eq : limit = 2 ^ 64 - 1 :=
  rfl

/-- The value of an ASCII digit. -/
def digitValue (digit : Char) : Nat :=
  digit.toNat - '0'.toNat

/-- The number that a run of ASCII digits stands for, however long it is. -/
def decimalValue (digits : Text) : Nat :=
  Nat.ofDigits 10 (digits.reverse.map digitValue)

/-- Whether a text is the numeral with the given digits: ASCII digits, at least one, behind at most
one plus sign. -/
structure IsNumeral (text digits : Text) : Prop where
  text_eq : text = digits ∨ text = '+' :: digits
  ne_nil : digits ≠ []
  ascii : ∀ digit ∈ digits, digit.isDigit = true

theorem asciiDigit?_eq (character : Char) :
    asciiDigit? character = if character.isDigit then some (digitValue character) else none := by
  simp [asciiDigit?, Char.isDigit, Char.le_def, digitValue]

@[simp]
theorem decimalValue_nil : decimalValue [] = 0 :=
  rfl

theorem decimalValue_cons (digit : Char) (rest : Text) :
    decimalValue (digit :: rest) = digitValue digit * 10 ^ rest.length + decimalValue rest := by
  rw [decimalValue, List.reverse_cons, List.map_append, Nat.ofDigits_append, List.length_map,
    List.length_reverse, List.map_singleton, Nat.ofDigits_singleton, Nat.add_comm, Nat.mul_comm]
  rfl

theorem decimalValue_zeros_append (count : Nat) (digits : Text) :
    decimalValue (List.replicate count '0' ++ digits) = decimalValue digits := by
  rw [decimalValue, List.reverse_append, List.reverse_replicate, List.map_append,
    List.map_replicate]
  exact Nat.ofDigits_append_replicate_zero _

/-! ## Reading digits -/

/-- What digits stand for behind others of the value `value`. -/
theorem value_mul_pow_add_decimalValue_cons (value : Nat) (digit : Char) (rest : Text) :
    value * 10 ^ (digit :: rest).length + decimalValue (digit :: rest) =
      (value * 10 + digitValue digit) * 10 ^ rest.length + decimalValue rest := by
  rw [decimalValue_cons, List.length_cons, Nat.pow_succ, Nat.add_mul, Nat.add_assoc, Nat.mul_assoc,
    Nat.mul_comm 10]

/-- The two checks of a step are one: what passes the limit before the digit is added passes it
after that. -/
theorem digits?_cons (value : Nat) (character : Char) (rest : Text) :
    digits? value (character :: rest) =
      if character.isDigit = true ∧ value * 10 + digitValue character ≤ limit then
        digits? (value * 10 + digitValue character) rest
      else none := by
  rw [digits?, asciiDigit?_eq]
  by_cases digit : character.isDigit = true
  · by_cases fits : value * 10 + digitValue character ≤ limit
    · have before : ¬value * 10 > limit :=
        Nat.not_lt_of_le (Nat.le_trans (Nat.le_add_right _ _) fits)
      simp [digit, fits, before, Nat.not_lt_of_le fits]
    · simp [digit, fits, Nat.lt_of_not_le fits]
  · simp [digit]

/-- Giving up early rejects what passes the limit in the end, and nothing else. -/
theorem digits?_eq_some_iff {start value : Nat} {digits : Text} (within : start ≤ limit) :
    digits? start digits = some value ↔
      (∀ digit ∈ digits, digit.isDigit = true) ∧
        start * 10 ^ digits.length + decimalValue digits = value ∧ value ≤ limit := by
  induction digits generalizing start with
  | nil =>
      rw [digits?, Option.some_inj, List.length_nil, Nat.pow_zero, Nat.mul_one, decimalValue_nil,
        Nat.add_zero]
      constructor
      · rintro rfl
        exact ⟨nofun, rfl, within⟩
      · rintro ⟨_, same, _⟩
        exact same
  | cons digit rest ih =>
      rw [digits?_cons, value_mul_pow_add_decimalValue_cons, List.forall_mem_cons]
      by_cases goesOn : digit.isDigit = true ∧ start * 10 + digitValue digit ≤ limit
      · rw [if_pos goesOn, ih goesOn.2, and_assoc, and_iff_right goesOn.1]
      · rw [if_neg goesOn]
        constructor
        · intro found
          contradiction
        · rintro ⟨⟨ascii, _⟩, rfl, fits⟩
          -- The number so far is at most the number in the end.
          have earlier : start * 10 + digitValue digit ≤
              (start * 10 + digitValue digit) * 10 ^ rest.length + decimalValue rest :=
            Nat.le_trans (Nat.le_mul_of_pos_right _ (Nat.pow_pos (by decide)))
              (Nat.le_add_right _ _)
          exact absurd ⟨ascii, Nat.le_trans earlier fits⟩ goesOn

theorem digits?_zero_eq_some_iff {digits : Text} {value : Nat} :
    digits? 0 digits = some value ↔
      (∀ digit ∈ digits, digit.isDigit = true) ∧ decimalValue digits = value ∧ value ≤ limit := by
  rw [digits?_eq_some_iff (Nat.zero_le _), Nat.zero_mul, Nat.zero_add]

/-- A zero leaves the value at zero. -/
theorem digits?_zeros_append (count : Nat) (digits : Text) :
    digits? 0 (List.replicate count '0' ++ digits) = digits? 0 digits := by
  induction count with
  | zero => rfl
  | succ count ih =>
      rw [List.replicate_succ, List.cons_append, digits?_cons, ← ih]
      rfl

/-! ## Numerals -/

theorem value?_plus {digits : Text} (nonempty : digits ≠ []) :
    value? ('+' :: digits) = digits? 0 digits := by
  cases digits with
  | nil => contradiction
  | cons digit rest => rfl

theorem value?_of_head {text : Text} (nonempty : text ≠ []) (noPlus : '+' ∉ text.head?) :
    value? text = digits? 0 text := by
  unfold value?
  split
  · contradiction
  · exact absurd rfl noPlus
  · exact absurd rfl noPlus
  · rfl

theorem IsNumeral.value?_eq {text digits : Text} (numeral : IsNumeral text digits) :
    value? text = digits? 0 digits := by
  rcases numeral.text_eq with rfl | rfl
  · apply value?_of_head numeral.ne_nil
    intro plus
    have digit := numeral.ascii '+' (List.mem_of_mem_head? plus)
    contradiction
  · exact value?_plus numeral.ne_nil

theorem isNumeral_of_value?_eq_some {text : Text} {value : Nat} (found : value? text = some value) :
    ∃ digits, IsNumeral text digits := by
  unfold value? at found
  split at found
  · contradiction
  · contradiction
  · next digits nonempty =>
    exact ⟨digits, Or.inr rfl, nonempty, (digits?_zero_eq_some_iff.mp found).1⟩
  · next nonempty _ _ =>
    exact ⟨text, Or.inl rfl, nonempty, (digits?_zero_eq_some_iff.mp found).1⟩

theorem value?_eq_some_iff {text : Text} {value : Nat} :
    value? text = some value ↔
      ∃ digits, IsNumeral text digits ∧ decimalValue digits = value ∧ value ≤ limit := by
  constructor
  · intro found
    rcases isNumeral_of_value?_eq_some found with ⟨digits, numeral⟩
    rw [numeral.value?_eq, digits?_zero_eq_some_iff] at found
    exact ⟨digits, numeral, found.2⟩
  · rintro ⟨digits, numeral, fits⟩
    rw [numeral.value?_eq, digits?_zero_eq_some_iff]
    exact ⟨numeral.ascii, fits⟩

theorem value?_eq_none_iff {text : Text} :
    value? text = none ↔ ∀ digits, IsNumeral text digits → limit < decimalValue digits := by
  rw [Option.eq_none_iff_forall_ne_some]
  constructor
  · intro valueless digits numeral
    by_contra fits
    exact valueless _ (value?_eq_some_iff.mpr ⟨digits, numeral, rfl, Nat.le_of_not_lt fits⟩)
  · intro passes value found
    rcases value?_eq_some_iff.mp found with ⟨digits, numeral, rfl, fits⟩
    exact absurd (passes digits numeral) (Nat.not_lt_of_le fits)

/-! ## Sizes of decimal digits -/

section

variable {size : Text} (nonempty : size ≠ [])
  (digits : ∀ digit ∈ size, isDecimalDigit digit = true)

include nonempty digits

/-- A size without a sign is read from its first character on. -/
theorem value?_eq_digits? : value? size = digits? 0 size := by
  apply value?_of_head nonempty
  intro plus
  have digit := digits '+' (List.mem_of_mem_head? plus)
  contradiction

theorem isSome_value?_iff :
    (value? size).isSome = true ↔
      (∀ digit ∈ size, digit.isDigit = true) ∧ decimalValue size ≤ limit := by
  rw [value?_eq_digits? nonempty digits, Option.isSome_iff_exists]
  simp only [digits?_zero_eq_some_iff]
  constructor
  · rintro ⟨_, ascii, rfl, fits⟩
    exact ⟨ascii, fits⟩
  · rintro ⟨ascii, fits⟩
    exact ⟨_, ascii, rfl, fits⟩

theorem value?_zeros_append (count : Nat) :
    value? (List.replicate count '0' ++ size) = value? size := by
  have longer : ∀ digit ∈ List.replicate count '0' ++ size, isDecimalDigit digit = true := by
    intro digit member
    rcases List.mem_append.mp member with zero | member
    · rw [List.eq_of_mem_replicate zero]
      decide
    · exact digits digit member
  rw [value?_eq_digits? nonempty digits,
    value?_eq_digits? (List.append_ne_nil_of_right_ne_nil _ nonempty) longer,
    digits?_zeros_append]

end

end Size

/-- A size has a value if and only if it is a numeral whose number fits 64 bits, and the value is
that number.  The size of a record from a report has one if and only if its digits are ASCII and
their number fits.  Zeros in front of a run of digits change nothing. -/
theorem Record.bytes?_exact :
    (∀ (record : Record) (value : Nat), record.bytes? = some value ↔
      ∃ digits, Size.IsNumeral record.size digits ∧ Size.decimalValue digits = value ∧
        value ≤ 2 ^ 64 - 1) ∧
      (∀ record : Record, record.bytes? = none ↔
        ∀ digits, Size.IsNumeral record.size digits → 2 ^ 64 - 1 < Size.decimalValue digits) ∧
      (∀ (source : Source) (capacity : Nat) (records : List Record),
        (Extraction.run source { capacity }).sink.received = Csv.rows records →
        ∀ record ∈ records, record.bytes?.isSome = true ↔
          (∀ digit ∈ record.size, digit.isDigit = true) ∧
            Size.decimalValue record.size ≤ 2 ^ 64 - 1) ∧
      ∀ (name digits : Text) (count : Nat), digits ≠ [] →
        (∀ digit ∈ digits, isDecimalDigit digit = true) →
        Size.decimalValue (List.replicate count '0' ++ digits) = Size.decimalValue digits ∧
          Record.bytes? ⟨name, List.replicate count '0' ++ digits⟩ =
            Record.bytes? ⟨name, digits⟩ := by
  rw [← Size.limit_eq]
  constructor
  · intro record value
    exact Size.value?_eq_some_iff
  constructor
  · intro record
    exact Size.value?_eq_none_iff
  constructor
  · intro source capacity records received record member
    have found : records = Report.records (Extraction.linesOf source) :=
      Csv.rows_injective (received.symm.trans (Extraction.received_run rfl source))
    rw [found] at member
    have canonical := Report.isCanonical_of_mem_records member
    exact Size.isSome_value?_iff canonical.size_ne_nil canonical.size_digits
  · intro name digits count nonempty decimal
    exact ⟨Size.decimalValue_zeros_append count digits,
      Size.value?_zeros_append nonempty decimal count⟩

/-- The greatest size behind zeros, the first one that does not fit, and a size in which a digit is
of another script. -/
theorem Record.bytes?_exact_at_limit :
    let fits : Record := ⟨['a'], "0018446744073709551615".toList⟩
    let passes : Record := ⟨['b'], "18446744073709551616".toList⟩
    let mixed : Record := ⟨['c'], "1٣".toList⟩
    let signed : Record := ⟨['d'], "+7".toList⟩
    let records := [fits, passes, mixed]
    (Extraction.run (.whole (Utf8.encode (Report.ofRecords records))) {}).sink.received =
        Csv.rows records ∧
      fits.bytes?.isSome = true ∧ ¬passes.bytes?.isSome = true ∧ ¬mixed.bytes?.isSome = true ∧
      signed.bytes? = some 7 ∧
      Record.bytes? ⟨['e'], List.replicate 30 '0' ++ ['8']⟩ = some 8 := by
  intro fits passes mixed signed records
  have canonical : ∀ record ∈ records, record.IsCanonical := by decide
  have received :
      (Extraction.run (.whole (Utf8.encode (Report.ofRecords records))) {}).sink.received =
        Csv.rows records := by
    rw [(Extraction.run_unlimited 0 (Source.fault?_whole _)).2.1, Extraction.rowsOf,
      Extraction.linesOf_of_fault?_eq_none (Source.fault?_whole _), Source.delivered_whole,
      Report.lines_encode_ofRecords canonical, Report.records_map_ofRecord canonical]
  obtain ⟨valued, _, ofReports, zeros⟩ := Record.bytes?_exact
  have extracted := ofReports _ 0 records received
  refine ⟨received, ?_, ?_, ?_, ?_, ?_⟩
  · rw [extracted fits (by decide)]
    exact ⟨List.all_eq_true.mp (by decide), by decide⟩
  · rw [extracted passes (by decide)]
    rintro ⟨_, within⟩
    exact absurd within (by decide)
  · rw [extracted mixed (by decide)]
    rintro ⟨ascii, _⟩
    exact absurd (ascii '٣' (by decide)) (by decide)
  · rw [valued]
    exact ⟨['7'], ⟨Or.inr rfl, List.cons_ne_nil _ _, List.forall_mem_singleton.mpr rfl⟩,
      by decide, by decide⟩
  · rw [(zeros ['e'] ['8'] 30 (List.cons_ne_nil _ _) (List.forall_mem_singleton.mpr rfl)).2,
      valued]
    exact ⟨['8'], ⟨Or.inl rfl, List.cons_ne_nil _ _, List.forall_mem_singleton.mpr rfl⟩,
      by decide, by decide⟩

end ClassSizes
