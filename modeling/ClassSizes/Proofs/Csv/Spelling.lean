import ClassSizes.Proofs.Csv.RoundTrip

/-!
# Tables that others have written

Rows can be spelled in many ways: every field may be quoted, or left bare where it would not be
misread, a row may end in any of three ways, and blank lines may stand wherever a row may begin.
The spellings are stated here on texts, field by field and without the scanner.  All spellings of
the same rows are read as the same table, and if there is a row that does not have two fields, then
the first such row is reported whatever its spelling.
-/

namespace ClassSizes.Csv

/-! ## Spellings -/

/-- The spellings of a field: between quotes, with the quotes in it doubled, or bare. -/
inductive SpellsField (field : Text) : Text → Prop
  | quoted : SpellsField field ('"' :: doubleQuotes field ++ ['"'])
  | bare : (∀ character ∈ field, character ≠ ',' ∧ character ≠ '\r' ∧ character ≠ '\n') →
      field.head? ≠ some '"' → SpellsField field field

/-- The spellings of a row: those of its fields with commas between them.  A row that is one empty
field must not be spelled as nothing, since it would be a blank line. -/
inductive SpellsRow (row : List Text) : Text → Prop
  | joined {fields : List Text} : row ≠ [] → List.Forall₂ SpellsField row fields →
      fields ≠ [[]] → SpellsRow row (joinWith ',' fields)

/-- What ends a row. -/
inductive LineEnd : Text → Prop
  | lineFeed : LineEnd ['\n']
  | carriageReturn : LineEnd ['\r']
  | pair : LineEnd ['\r', '\n']

/-- Any number of blank lines. -/
def BlankLines (text : Text) : Prop :=
  ∀ character ∈ text, character = '\r' ∨ character = '\n'

/-- The spellings of rows, with blank lines behind those that are ended; the last one need not be. -/
inductive SpellsRows : List (List Text) → Text → Prop
  | none : SpellsRows [] []
  | last {row : List Text} {spelled : Text} : SpellsRow row spelled → SpellsRows [row] spelled
  | cons {row : List Text} {rows : List (List Text)} {spelled ending blank rest : Text} :
      SpellsRow row spelled → LineEnd ending → BlankLines blank → SpellsRows rows rest →
      SpellsRows (row :: rows) (spelled ++ ending ++ blank ++ rest)

/-- The spellings of a whole document.  Without a byte order mark it must not begin with the
character of one: its first field, if nothing stands in front of it, is not bare with that
character at its front. -/
inductive SpellsDocument (rows : List (List Text)) : Text → Prop
  | marked {blank body : Text} : BlankLines blank → SpellsRows rows body →
      SpellsDocument rows ('\uFEFF' :: blank ++ body)
  | unmarked {blank body : Text} : BlankLines blank → SpellsRows rows body →
      (blank ++ body).head? ≠ some '\uFEFF' → SpellsDocument rows (blank ++ body)

/-! ## Spellings as bytes -/

theorem isPlain_of_mem_encode {field : Text}
    (plain : ∀ character ∈ field, character ≠ ',' ∧ character ≠ '\r' ∧ character ≠ '\n') {byte : UInt8}
    (member : byte ∈ Utf8.encode field) : isPlain byte = true := by
  have apart {special : UInt8} (ascii : special.toNat < 0x80)
      (absent : Char.ofNat special.toNat ∉ field) : byte ≠ special := by
    rintro rfl
    exact absent ((Utf8.mem_encode_iff ascii field).mp member)
  have noComma : byte ≠ comma := apart (by decide) fun found => (plain _ found).1 rfl
  have noReturn : byte ≠ carriageReturn := apart (by decide) fun found => (plain _ found).2.1 rfl
  have noFeed : byte ≠ newLine := apart (by decide) fun found => (plain _ found).2.2 rfl
  simp [isPlain, endsRow, noComma, noReturn, noFeed]

theorem head?_encode_ne_quote {field : Text} (noQuote : field.head? ≠ some '"') :
    (Utf8.encode field).head? ≠ some quote := by
  intro quoted
  obtain ⟨rest, encoded⟩ := List.head?_eq_some_iff.mp quoted
  have decoded := Utf8.decodeLossy_encode field
  rw [encoded, Utf8.decodeLossy_cons_of_ascii (by decide)] at decoded
  exact noQuote (by rw [← decoded]; rfl)

theorem SpellsField.encode {field spelled : Text} (spells : SpellsField field spelled) :
    Spells (Utf8.encode field) (Utf8.encode spelled) := by
  cases spells with
  | quoted =>
      have encoded : Utf8.encode ('"' :: doubleQuotes field ++ ['"']) =
          quote :: (Utf8.encode field).flatMap quotedAtom ++ [quote] := by
        rw [Utf8.encode_append, Utf8.encode_cons, encode_doubleQuotes]
        rfl
      rw [encoded]
      exact .quoted
  | bare plain noQuote =>
      exact .plain (fun _ member => isPlain_of_mem_encode plain member)
        (head?_encode_ne_quote noQuote)

theorem encode_joinWith (fields : List Text) :
    Utf8.encode (joinWith ',' fields) = joinWith comma (fields.map Utf8.encode) := by
  induction fields with
  | nil => rfl
  | cons field rest ih =>
      cases rest with
      | nil => rfl
      | cons next rest =>
          rw [joinWith, Utf8.encode_append, Utf8.encode_cons, ih]
          rfl

theorem SpellsRow.encode {row : List Text} {spelled : Text} (spells : SpellsRow row spelled) :
    ∃ fields, Utf8.encode spelled = joinWith comma fields ∧
      List.Forall₂ Spells (row.map Utf8.encode) fields ∧ row.map Utf8.encode ≠ [] ∧
      fields ≠ [[]] := by
  cases spells with
  | @joined fields nonempty spells visible =>
      refine ⟨fields.map Utf8.encode, encode_joinWith fields, ?_, by simpa using nonempty, ?_⟩
      · rw [List.forall₂_map_left_iff, List.forall₂_map_right_iff]
        exact spells.imp fun _ _ spellsField => spellsField.encode
      · intro nothing
        have same : fields.map Utf8.encode = [[]].map Utf8.encode := nothing
        exact visible (Utf8.encode_injective.list_map same)

theorem BlankLines.encode {text : Text} (blank : BlankLines text) :
    ∀ byte ∈ Utf8.encode text, endsRow byte = true := by
  intro byte member
  obtain ⟨character, found, inside⟩ := List.mem_flatMap.mp member
  rcases blank character found with rfl | rfl
  all_goals
    obtain rfl := List.mem_singleton.mp inside
    rfl

theorem LineEnd.encode {ending : Text} (ends : LineEnd ending) :
    ∃ byte more, Utf8.encode ending = byte :: more ∧ endsRow byte = true ∧
      ∀ other ∈ more, endsRow other = true := by
  cases ends with
  | lineFeed => exact ⟨newLine, [], rfl, rfl, nofun⟩
  | carriageReturn => exact ⟨Csv.carriageReturn, [], rfl, rfl, nofun⟩
  | pair => exact ⟨Csv.carriageReturn, [newLine], rfl, rfl,
      List.forall_mem_singleton.mpr rfl⟩

/-! ## Scanning spelled rows -/

namespace Scanner

variable {scanner : Scanner}

/-- A row at the end of the input needs no line end. -/
theorem Rests.rowsOf_last (rests : scanner.Rests) {fields spelled : List Bytes}
    (spells : List.Forall₂ Spells fields spelled) (nonempty : fields ≠ [])
    (visible : spelled ≠ [[]]) :
    scanner.rowsOf (joinWith comma spelled) = [⟨fields, scanner.origin⟩] := by
  obtain ⟨last, scanned, holds, begun⟩ :=
    rests.opens.scan_joinWith spells nonempty fun _ => visible
  rw [rests.fields, List.reverse_nil, List.nil_append] at holds
  rw [rowsOf, scanned, finish, if_neg begun, currentRow, holds.fields_eq, holds.origin_eq]
  rfl

/-- Between rows, the scanner finds the fields of spelled rows. -/
theorem Rests.fields_rowsOf (rests : scanner.Rests) {rows : List (List Text)} {body : Text}
    (spells : SpellsRows rows body) :
    (scanner.rowsOf (Utf8.encode body)).map RawRow.fields = rows.map (·.map Utf8.encode) := by
  induction spells generalizing scanner with
  | none =>
      rw [Utf8.encode_nil, rowsOf, scan_nil, finish, if_pos rests.mode]
      rfl
  | last spells =>
      obtain ⟨fields, encoded, spelled, nonempty, visible⟩ := spells.encode
      rw [encoded, rests.rowsOf_last spelled nonempty visible]
      rfl
  | @cons row rows spelled ending blank rest spells ends isBlank _ ih =>
      obtain ⟨fields, encoded, spelledFields, nonempty, visible⟩ := spells.encode
      obtain ⟨byte, more, encodedEnd, endsRow, moreEnds⟩ := ends.encode
      have allEnd : ∀ other ∈ more ++ Utf8.encode blank, Csv.endsRow other = true :=
        List.forall_mem_append.mpr ⟨moreEnds, isBlank.encode⟩
      obtain ⟨restsAfter, found⟩ := rests.scan_ended spelledFields nonempty visible endsRow allEnd
      have front : Utf8.encode (spelled ++ ending ++ blank ++ rest) =
          (joinWith comma fields ++ byte :: (more ++ Utf8.encode blank)) ++ Utf8.encode rest := by
        simp [encoded, encodedEnd]
      rw [front, rowsOf_append, found, List.map_append, ih restsAfter]
      rfl

/-- Blank lines in front of the rows do not matter. -/
theorem Rests.fields_rowsOf_blank (rests : scanner.Rests) {rows : List (List Text)}
    {blank body : Text} (isBlank : BlankLines blank) (spells : SpellsRows rows body) :
    (scanner.rowsOf (Utf8.encode (blank ++ body))).map RawRow.fields =
      rows.map (·.map Utf8.encode) := by
  obtain ⟨restsAfter, nothing⟩ := rests.scan_blank isBlank.encode
  rw [Utf8.encode_append, rowsOf_append, nothing, List.nil_append]
  exact restsAfter.fields_rowsOf spells

end Scanner

theorem not_isPrefixOf_encode {text : Text} (unmarked : text.head? ≠ some '\uFEFF') :
    ¬byteOrderMark.isPrefixOf (Utf8.encode text) = true := by
  rw [List.isPrefixOf_iff_prefix]
  rintro ⟨rest, begins⟩
  cases text with
  | nil => simp [byteOrderMark] at begins
  | cons character text =>
      rw [Utf8.encode_cons] at begins
      have mark : '\uFEFF' = character := Utf8.eq_of_encodeChar_append begins
      subst mark
      exact unmarked rfl

/-- The rows of a document are found with their fields, whatever its spelling. -/
theorem SpellsDocument.fields_rowsOf {rows : List (List Text)} {document : Text}
    (spells : SpellsDocument rows document) :
    (rowsOf (Utf8.encode document)).map RawRow.fields = rows.map (·.map Utf8.encode) := by
  unfold rowsOf
  cases spells with
  | @marked blank body isBlank spells =>
      have encoded : Utf8.encode ('\uFEFF' :: blank ++ body) =
          byteOrderMark ++ Utf8.encode (blank ++ body) :=
        Utf8.encode_cons '\uFEFF' (blank ++ body)
      have marked : byteOrderMark.isPrefixOf (byteOrderMark ++ Utf8.encode (blank ++ body)) = true :=
        List.isPrefixOf_iff_prefix.mpr (List.prefix_append _ _)
      rw [encoded, if_pos marked, List.drop_left]
      exact Scanner.Rests.fields_rowsOf_blank ⟨rfl, rfl, rfl⟩ isBlank spells
  | unmarked isBlank spells unmarked =>
      rw [if_neg (not_isPrefixOf_encode unmarked)]
      exact Scanner.Rests.fields_rowsOf_blank ⟨rfl, rfl, rfl⟩ isBlank spells

/-! ## Checking spelled rows -/

theorem invalidField?_map_encode (index : Nat) (row : List Text) :
    invalidField? index (row.map Utf8.encode) = none := by
  induction row generalizing index with
  | nil => rfl
  | cons field rest ih => rw [List.map_cons, invalidField?, if_pos (Utf8.isValid_encode field), ih]

theorem RawRow.record?_of_two {raw : RawRow} {row : List Text}
    (fields : raw.fields = row.map Utf8.encode) (two : row.length = 2) :
    ∃ record, raw.record? = .ok record ∧ [record.name, record.size] = row := by
  obtain ⟨name, size, rfl⟩ := List.length_eq_two.mp two
  have read : raw.record? = .ok ⟨name, size⟩ := by
    rw [← record?_encode ⟨name, size⟩ raw.place]
    exact congrArg (fun fields => record? ⟨fields, raw.place⟩) fields
  exact ⟨_, read, rfl⟩

theorem RawRow.record?_of_not_two {raw : RawRow} {row : List Text}
    (fields : raw.fields = row.map Utf8.encode) (notTwo : row.length ≠ 2) :
    raw.record? = .error (.invalidRecord raw.place.line row.length) := by
  rw [record?, fields, invalidField?_map_encode]
  simp only
  split
  · next name size pair =>
    have length := congrArg List.length pair
    rw [List.length_map] at length
    exact absurd length notTwo
  · rw [List.length_map]

theorem exists_mapM_record? {raws : List RawRow} {rows : List (List Text)}
    (fields : raws.map RawRow.fields = rows.map (·.map Utf8.encode))
    (two : ∀ row ∈ rows, row.length = 2) :
    ∃ records, raws.mapM RawRow.record? = .ok records ∧
      records.map (fun record => [record.name, record.size]) = rows := by
  induction raws generalizing rows with
  | nil =>
      obtain rfl := List.map_eq_nil_iff.mp fields.symm
      exact ⟨[], rfl, rfl⟩
  | cons raw raws ih =>
      obtain ⟨row, rest, rfl, first, others⟩ := List.map_eq_cons_iff.mp fields.symm
      obtain ⟨record, read, same⟩ := RawRow.record?_of_two first.symm (two row List.mem_cons_self)
      obtain ⟨records, readRest, sameRest⟩ :=
        ih others.symm fun other member => two other (List.mem_cons_of_mem _ member)
      refine ⟨record :: records, ?_, by rw [List.map_cons, same, sameRest]⟩
      rw [List.mapM_cons, read, readRest]
      rfl

/-- All spellings of a document are read alike: as the table of its rows if each of them has two
fields, and otherwise the number of fields of the first row that has not is reported. -/
theorem read_spelled {rows : List (List Text)} {document : Text}
    (spells : SpellsDocument rows document) :
    ((∀ row ∈ rows, row.length = 2) →
        ∃ table, Table.read (.whole (Utf8.encode document)) = .ok table ∧
          table.toList.map (fun record => [record.name, record.size]) = rows) ∧
      ∀ earlier row later, rows = earlier ++ row :: later →
        (∀ good ∈ earlier, good.length = 2) → row.length ≠ 2 →
        ∃ line, Table.read (.whole (Utf8.encode document)) =
            .error (.invalidRecord line row.length) ∧
          Failure.columnReason row.length = "expected 2 columns, found " ++ toString row.length := by
  have fields := spells.fields_rowsOf
  rw [Table.read, records?_whole]
  constructor
  · intro two
    obtain ⟨records, read, same⟩ := exists_mapM_record? fields two
    refine ⟨.ofRecords records, by rw [read]; rfl, ?_⟩
    rw [Table.toList_ofRecords, same]
  · rintro earlier row later rfl two notTwo
    rw [List.map_append, List.map_cons] at fields
    obtain ⟨before, behind, split, firsts, others⟩ := List.map_eq_append_iff.mp fields
    obtain ⟨raw, after, rfl, bad, _⟩ := List.map_eq_cons_iff.mp others
    obtain ⟨records, read, _⟩ := exists_mapM_record? firsts two
    refine ⟨raw.place.line, ?_, rfl⟩
    rw [split, List.mapM_append, read, List.mapM_cons, RawRow.record?_of_not_two bad notTwo]
    rfl

/-- A marked document whose first field is bare and begins with the character of the mark; and a
document with a row that is one empty field. -/
theorem read_spelled_odd_documents :
    let rows : List (List Text) := [[['\uFEFF', 'a', '"'], ['"', '\r', '\n']], [[], ['1']]]
    let document := "\uFEFF\n\uFEFFa\",\"\"\"\r\n\"\r\n\r,\"1\"".toList
    let short : List (List Text) := [[['A'], ['1']], [[]]]
    let other := "A,1\r\"\"\n\n".toList
    SpellsDocument rows document ∧ (∀ row ∈ rows, row.length = 2) ∧
      (∃ table, Table.read (.whole (Utf8.encode document)) = .ok table ∧
        table.toList.map (fun record => [record.name, record.size]) = rows) ∧
      SpellsDocument short other ∧ short = [[['A'], ['1']]] ++ [[]] :: [] ∧
      (∀ good ∈ ([[['A'], ['1']]] : List (List Text)), good.length = 2) ∧
      ([[]] : List Text).length ≠ 2 ∧
      ∃ line, Table.read (.whole (Utf8.encode other)) = .error (.invalidRecord line 1) := by
  intro rows document short other
  have bare (field : Text)
      (plain : ∀ character ∈ field, character ≠ ',' ∧ character ≠ '\r' ∧ character ≠ '\n')
      (noQuote : field.head? ≠ some '"') : SpellsField field field := .bare plain noQuote
  have quoted (field : Text) : SpellsField field ('"' :: doubleQuotes field ++ ['"']) := .quoted
  have nothing : BlankLines [] := nofun
  have feed : BlankLines ['\n'] := by simp [BlankLines]
  have back : BlankLines ['\r'] := by simp [BlankLines]
  have first := SpellsRow.joined (by decide)
    (.cons (bare ['\uFEFF', 'a', '"'] (by simp) (by decide))
      (.cons (quoted ['"', '\r', '\n']) .nil)) (by decide)
  have second := SpellsRow.joined (by decide)
    (.cons (bare [] nofun (by decide)) (.cons (quoted ['1']) .nil)) (by decide)
  have third := SpellsRow.joined (by decide)
    (.cons (bare ['A'] (by simp) (by decide)) (.cons (bare ['1'] (by simp) (by decide)) .nil))
    (by decide)
  have last := SpellsRow.joined (by decide) (.cons (quoted []) .nil) (by decide)
  have spells : SpellsDocument rows document :=
    .marked feed (.cons first .pair back (.last second))
  have spellsShort : SpellsDocument short other :=
    .unmarked nothing
      (.cons third .carriageReturn nothing (.cons last .lineFeed feed .none)) (by decide)
  have two : ∀ row ∈ rows, row.length = 2 := by decide
  have good : ∀ good ∈ ([[['A'], ['1']]] : List (List Text)), good.length = 2 := by decide
  have notTwo : ([[]] : List Text).length ≠ 2 := by decide
  obtain ⟨line, bad, _⟩ := (read_spelled spellsShort).2 _ _ _ rfl good notTwo
  exact ⟨spells, two, (read_spelled spells).1 two, spellsShort, rfl, good, notTwo, line, bad⟩

end ClassSizes.Csv
