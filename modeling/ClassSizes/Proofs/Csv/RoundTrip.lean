import ClassSizes.Proofs.Csv.Scanning
import ClassSizes.Table

/-!
# Reading rows that have been written

Rows are read back as the records that they were written from, with one exception at the very
front.  A name that begins with `U+FEFF` and is written as it is makes the rows begin like a
byte order mark; the mark is passed over, and the name is read without it.  A name with the same
beginning that has to be quoted is safe, since the quote comes first.
-/

namespace ClassSizes.Csv

/-! ## What is written -/

/-- Whether a character makes a field that holds it a quoted one. -/
def isSpecial (character : Char) : Bool :=
  character == ',' || character == '"' || character == '\r' || character == '\n'

theorem needsQuotes_iff {field : Bytes} :
    needsQuotes field = true ↔
      comma ∈ field ∨ quote ∈ field ∨ carriageReturn ∈ field ∨ newLine ∈ field := by
  simp only [needsQuotes, List.any_eq_true, Bool.or_eq_true, beq_iff_eq]
  constructor
  · rintro ⟨byte, member, ((rfl | rfl) | rfl) | rfl⟩ <;> simp [member]
  · rintro (member | member | member | member) <;> exact ⟨_, member, by simp⟩

theorem needsQuotes_encode (text : Text) : needsQuotes (Utf8.encode text) = text.any isSpecial := by
  rw [Bool.eq_iff_iff, needsQuotes_iff, Utf8.mem_encode_iff (by decide),
    Utf8.mem_encode_iff (by decide), Utf8.mem_encode_iff (by decide),
    Utf8.mem_encode_iff (by decide)]
  simp only [isSpecial, List.any_eq_true, Bool.or_eq_true, beq_iff_eq]
  constructor
  · rintro (member | member | member | member) <;> exact ⟨_, member, by decide⟩
  · rintro ⟨character, member, ((rfl | rfl) | rfl) | rfl⟩
    · exact Or.inl member
    · exact Or.inr (Or.inl member)
    · exact Or.inr (Or.inr (Or.inl member))
    · exact Or.inr (Or.inr (Or.inr member))

theorem flatten_fieldAtoms_of_quoted {field : Bytes} (quoted : needsQuotes field = true) :
    (fieldAtoms field).flatten = quote :: field.flatMap quotedAtom ++ [quote] := by
  rw [fieldAtoms, if_pos quoted, List.flatMap_def]
  simp

/-- A text with every quote doubled. -/
def doubleQuotes (text : Text) : Text :=
  text.flatMap fun character => if character = '"' then ['"', '"'] else [character]

theorem flatMap_quotedAtom_of_not_mem {bytes : Bytes} (noQuote : quote ∉ bytes) :
    bytes.flatMap quotedAtom = bytes := by
  induction bytes with
  | nil => rfl
  | cons byte rest ih =>
      rw [List.mem_cons, not_or] at noQuote
      rw [List.flatMap_cons, ih noQuote.2, quotedAtom, if_neg (Ne.symm noQuote.1),
        List.singleton_append]

/-- Doubling the quotes of a text doubles the quote bytes of its encoding, because the encoding of
no other character contains that byte. -/
theorem encode_doubleQuotes (text : Text) :
    Utf8.encode (doubleQuotes text) = (Utf8.encode text).flatMap quotedAtom := by
  induction text with
  | nil => rfl
  | cons character rest ih =>
      have first : Utf8.encode (if character = '"' then ['"', '"'] else [character]) =
          (Utf8.encodeChar character).flatMap quotedAtom := by
        by_cases isQuote : character = '"'
        · subst isQuote
          decide
        · have noQuote : quote ∉ Utf8.encode [character] := by
            rw [Utf8.mem_encode_iff (by decide), List.mem_singleton]
            exact Ne.symm isQuote
          rw [Utf8.encode_cons, Utf8.encode_nil, List.append_nil] at noQuote
          rw [if_neg isQuote, flatMap_quotedAtom_of_not_mem noQuote, Utf8.encode_cons,
            Utf8.encode_nil, List.append_nil]
      rw [doubleQuotes, List.flatMap_cons, Utf8.encode_append, first, Utf8.encode_cons,
        List.flatMap_append, ← ih, doubleQuotes]

/-- What is written for a field is a spelling of it. -/
theorem spells_flatten_fieldAtoms (field : Bytes) : Spells field (fieldAtoms field).flatten := by
  by_cases quoted : needsQuotes field = true
  · rw [flatten_fieldAtoms_of_quoted quoted]
    exact Spells.quoted
  · rw [flatten_fieldAtoms_of_bare (by simpa using quoted)]
    rw [needsQuotes_iff, not_or, not_or, not_or] at quoted
    obtain ⟨noComma, noQuote, noReturn, noNewLine⟩ := quoted
    refine Spells.plain ?_ ?_
    · intro byte member
      simp only [isPlain, endsRow, Bool.and_eq_true, bne_iff_ne, ne_eq, Bool.not_eq_true',
        Bool.or_eq_false_iff, beq_eq_false_iff_ne]
      refine ⟨?_, ?_, ?_⟩ <;> rintro rfl <;> contradiction
    · intro first
      exact noQuote (List.mem_of_head? first)

theorem row_eq (record : Record) :
    row record =
      joinWith comma [(fieldAtoms (Utf8.encode record.name)).flatten,
        (fieldAtoms (Utf8.encode record.size)).flatten] ++ rowEnd := by
  simp [row, recordAtoms, rowAtoms, joinWith]

/-! ## What is read -/

/-- The row of a record is accepted wherever it is found. -/
@[simp]
theorem record?_encode (record : Record) (place : Place) :
    RawRow.record? ⟨[Utf8.encode record.name, Utf8.encode record.size], place⟩ = .ok record := by
  simp [RawRow.record?, invalidField?]

/-- Between rows, the scanner reads rows as those of the records that they were written from. -/
theorem Scanner.Rests.scan_rows {scanner : Scanner} (rests : scanner.Rests)
    (records : List Record) :
    (scanner.scan (rows records)).1.Rests ∧
      (scanner.scan (rows records)).2.mapM RawRow.record? = .ok records := by
  induction records generalizing scanner with
  | nil => exact ⟨rests, rfl⟩
  | cons record rest ih =>
      have spells := List.Forall₂.cons (spells_flatten_fieldAtoms (Utf8.encode record.name))
        (List.Forall₂.cons (spells_flatten_fieldAtoms (Utf8.encode record.size)) List.Forall₂.nil)
      obtain ⟨restsAfter, scanned⟩ := rests.scan_row spells (by simp) (by simp)
      rw [← row_eq] at restsAfter scanned
      obtain ⟨restsLast, read⟩ := ih restsAfter
      rw [rows_cons, scan_append]
      refine ⟨restsLast, ?_⟩
      rw [scanned, List.singleton_append, List.mapM_cons, record?_encode, read]
      rfl

theorem Scanner.Rests.rowsOf_rows {scanner : Scanner} (rests : scanner.Rests)
    (records : List Record) :
    (scanner.rowsOf (rows records)).mapM RawRow.record? = .ok records := by
  obtain ⟨restsAfter, read⟩ := rests.scan_rows records
  rw [rowsOf, finish, if_pos restsAfter.mode, Option.toList_none, List.append_nil, read]

/-! ## The byte order mark -/

/-- Whether a name at the very front is read without its first character. -/
def losesMark (name : Text) : Bool :=
  name.head? == some '\uFEFF' && !name.any isSpecial

/-- Records as they are read back. -/
def withoutMark : List Record → List Record
  | [] => []
  | first :: rest =>
      (if losesMark first.name then { first with name := first.name.tail } else first) :: rest

theorem row_of_bare {record : Record} (bare : record.name.any isSpecial = false) :
    row record =
      Utf8.encode record.name ++
        comma :: ((fieldAtoms (Utf8.encode record.size)).flatten ++ rowEnd) := by
  rw [row_eq, joinWith, joinWith, flatten_fieldAtoms_of_bare (by rw [needsQuotes_encode, bare])]
  simp

theorem losesMark_iff {name : Text} :
    losesMark name = true ↔
      ∃ rest, name = '\uFEFF' :: rest ∧ rest.any isSpecial = false := by
  cases name with
  | nil => simp [losesMark]
  | cons first rest =>
      simp only [losesMark, List.head?_cons, Bool.and_eq_true, beq_iff_eq, Option.some.injEq,
        Bool.not_eq_true', List.any_cons, Bool.or_eq_false_iff, List.cons.injEq]
      constructor
      · rintro ⟨rfl, _, bare⟩
        exact ⟨rest, ⟨rfl, rfl⟩, bare⟩
      · rintro ⟨_, ⟨rfl, rfl⟩, bare⟩
        exact ⟨rfl, by decide, bare⟩

theorem row_of_mark {name size : Text} (bare : name.any isSpecial = false) :
    row ⟨'\uFEFF' :: name, size⟩ = byteOrderMark ++ row ⟨name, size⟩ := by
  have stillBare : ('\uFEFF' :: name).any isSpecial = false := by
    rw [List.any_cons, bare]
    decide
  rw [row_of_bare stillBare, row_of_bare bare, Utf8.encode_cons, List.append_assoc]
  rfl

@[simp]
theorem length_withoutMark (records : List Record) :
    (withoutMark records).length = records.length := by
  cases records <;> rfl

theorem withoutMark_eq_self_iff {records : List Record} :
    withoutMark records = records ↔
      ∀ first ∈ records.head?, losesMark first.name = false := by
  cases records with
  | nil => simp [withoutMark]
  | cons first rest =>
      cases loses : losesMark first.name with
      | false => simp [withoutMark, loses]
      | true =>
          obtain ⟨after, name, _⟩ := losesMark_iff.mp loses
          obtain ⟨_, size⟩ := first
          subst name
          simp [withoutMark, loses]

/-- Rows begin like a byte order mark when their first name does and is not quoted. -/
theorem isPrefixOf_rows_cons (first : Record) (rest : List Record) :
    byteOrderMark.isPrefixOf (rows (first :: rest)) = losesMark first.name := by
  rw [Bool.eq_iff_iff, List.isPrefixOf_iff_prefix, rows_cons]
  constructor
  · rintro ⟨tail, begins⟩
    cases bare : first.name.any isSpecial with
    | true =>
        rw [row_eq, joinWith,
          flatten_fieldAtoms_of_quoted (by rw [needsQuotes_encode, bare])] at begins
        simp [byteOrderMark, quote] at begins
    | false =>
        rw [row_of_bare bare] at begins
        cases name : first.name with
        | nil => simp [byteOrderMark, comma, name] at begins
        | cons character after =>
            rw [name, Utf8.encode_cons, List.append_assoc, List.append_assoc] at begins
            have same : '\uFEFF' = character := Utf8.eq_of_encodeChar_append begins
            subst same
            rw [name, List.any_cons, Bool.or_eq_false_iff] at bare
            exact losesMark_iff.mpr ⟨after, rfl, bare.2⟩
  · intro loses
    obtain ⟨after, name, bare⟩ := losesMark_iff.mp loses
    obtain ⟨_, size⟩ := first
    subst name
    rw [row_of_mark bare, List.append_assoc]
    exact List.prefix_append _ _

/-- Past the mark come the rows of the same records without it. -/
theorem drop_rows_cons {first : Record} (loses : losesMark first.name = true)
    (rest : List Record) :
    (rows (first :: rest)).drop byteOrderMark.length = rows (withoutMark (first :: rest)) := by
  rw [withoutMark, if_pos loses, rows_cons, rows_cons]
  obtain ⟨after, name, bare⟩ := losesMark_iff.mp loses
  obtain ⟨_, size⟩ := first
  subst name
  rw [row_of_mark bare, List.append_assoc, List.drop_left, List.tail_cons]

/-- Rows are read back as the records that they were written from, except that a byte order mark
at the very front is lost. -/
theorem records?_rows (records : List Record) :
    records? (.whole (rows records)) = .ok (withoutMark records) := by
  rw [records?_whole, rowsOf]
  cases records with
  | nil => rfl
  | cons first rest =>
      by_cases loses : losesMark first.name = true
      · rw [isPrefixOf_rows_cons, if_pos loses, drop_rows_cons loses]
        exact Scanner.Rests.rowsOf_rows ⟨rfl, rfl, rfl⟩ _
      · rw [isPrefixOf_rows_cons, if_neg loses, withoutMark, if_neg loses]
        exact Scanner.Rests.rowsOf_rows ⟨rfl, rfl, rfl⟩ _

/-- The table of rows that have been written. -/
theorem read_rows (records : List Record) :
    Table.read (.whole (rows records)) = .ok (Table.ofRecords (withoutMark records)) := by
  rw [Table.read, records?_rows]
  rfl

end ClassSizes.Csv
