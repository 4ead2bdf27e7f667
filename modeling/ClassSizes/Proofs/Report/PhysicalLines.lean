import ClassSizes.Proofs.Csv.RoundTrip
import ClassSizes.Proofs.Report.Canonical

/-!
# Rows as lines

In general a row may take several lines, since a quoted field may contain line ends, and its last
comma may stand inside a field.  The rows of canonical records are simpler.  Neither a name nor a
size of such a record holds a line end, so each row is a single line; the size holds no comma
either, so the last comma of the line is the one between the two fields.  A reader who knows
nothing about quotes finds every size there.
-/

namespace ClassSizes

namespace Csv

/-! ## Names -/

/-- A name as a line shows it: quoted if it holds a comma or a quote, otherwise verbatim. -/
def nameField (name : Text) : Text :=
  if ',' ∈ name ∨ '"' ∈ name then '"' :: doubleQuotes name ++ ['"'] else name

theorem mem_doubleQuotes_iff {character : Char} {text : Text} :
    character ∈ doubleQuotes text ↔ character ∈ text := by
  simp only [doubleQuotes, List.mem_flatMap]
  constructor
  · rintro ⟨original, member, doubled⟩
    split at doubled <;> simp_all
  · intro member
    refine ⟨character, member, ?_⟩
    split <;> simp_all

theorem mem_of_mem_nameField {character : Char} {name : Text}
    (member : character ∈ nameField name) : character = '"' ∨ character ∈ name := by
  rw [nameField] at member
  split at member
  · simpa [mem_doubleQuotes_iff, or_comm, or_assoc] using member
  · exact Or.inr member

/-! ## Lines -/

/-- The line that shows a record. -/
def line (record : Record) : Text :=
  nameField record.name ++ ',' :: record.size

theorem any_isSpecial_iff {name : Text}
    (solid : ∀ character ∈ name, isBlank character = false) :
    name.any isSpecial = true ↔ ',' ∈ name ∨ '"' ∈ name := by
  simp only [isSpecial, List.any_eq_true, Bool.or_eq_true, beq_iff_eq]
  constructor
  · rintro ⟨character, member, ((rfl | rfl) | rfl) | rfl⟩
    · exact Or.inl member
    · exact Or.inr member
    · exact absurd (solid _ member) (by decide)
    · exact absurd (solid _ member) (by decide)
  · rintro (member | member) <;> exact ⟨_, member, by decide⟩

/-- Names without blanks are quoted because of a comma or a quote only. -/
theorem flatten_fieldAtoms_encode_name {name : Text}
    (solid : ∀ character ∈ name, isBlank character = false) :
    (fieldAtoms (Utf8.encode name)).flatten = Utf8.encode (nameField name) := by
  have quotes := any_isSpecial_iff solid
  rw [← needsQuotes_encode] at quotes
  rw [nameField]
  by_cases special : ',' ∈ name ∨ '"' ∈ name
  · rw [if_pos special, flatten_fieldAtoms_of_quoted (quotes.mpr special), ← encode_doubleQuotes,
      Utf8.encode_append, Utf8.encode_cons]
    rfl
  · rw [if_neg special]
    exact flatten_fieldAtoms_of_bare (by rwa [← Bool.not_eq_true, quotes])

/-- Numerals are never quoted. -/
theorem flatten_fieldAtoms_encode_size {size : Text}
    (digits : ∀ character ∈ size, isDecimalDigit character = true) :
    (fieldAtoms (Utf8.encode size)).flatten = Utf8.encode size := by
  apply flatten_fieldAtoms_of_bare
  rw [needsQuotes_encode, List.any_eq_false]
  intro character member special
  simp only [isSpecial, Bool.or_eq_true, beq_iff_eq] at special
  rcases special with ((rfl | rfl) | rfl) | rfl <;> exact absurd (digits _ member) (by decide)

theorem row_eq_line {record : Record} (canonical : record.IsCanonical) :
    row record = Utf8.encode (line record) ++ rowEnd := by
  rw [row_eq, joinWith, joinWith, flatten_fieldAtoms_encode_name canonical.name_solid,
    flatten_fieldAtoms_encode_size canonical.size_digits, line, Utf8.encode_append,
    Utf8.encode_cons]
  rfl

theorem comma_not_mem_size {record : Record} (canonical : record.IsCanonical) :
    comma ∉ Utf8.encode record.size := by
  rw [Utf8.mem_encode_iff (by decide)]
  intro member
  exact absurd (canonical.size_digits _ member) (by decide)

/-- No blank stands in the line of a canonical record, and so no line end. -/
theorem not_mem_line {record : Record} (canonical : record.IsCanonical) {byte : UInt8}
    (ascii : byte.toNat < 0x80) (blank : isBlank (Char.ofNat byte.toNat) = true) :
    byte ∉ Utf8.encode (line record) := by
  rw [Utf8.mem_encode_iff ascii, line, List.mem_append, List.mem_cons]
  generalize Char.ofNat byte.toNat = character at blank
  rintro (inName | rfl | inSize)
  · rcases mem_of_mem_nameField inName with rfl | inName
    · exact absurd blank (by decide)
    · rw [canonical.name_solid _ inName] at blank
      contradiction
  · exact absurd blank (by decide)
  · rw [isBlank_eq_false_of_isDecimalDigit (canonical.size_digits _ inSize)] at blank
    contradiction

/-! ## The last comma -/

/-- A line falls into `left` and `right` at its last comma. -/
structure CutAtLastComma (line left right : Bytes) : Prop where
  joined : line = left ++ comma :: right
  no_comma : comma ∉ right

/-- Read backwards, the size comes first, up to the first comma. -/
theorem CutAtLastComma.reverse {line left right : Bytes} (cut : CutAtLastComma line left right) :
    line.reverse.takeWhile (· != comma) = right.reverse ∧
      line.reverse.dropWhile (· != comma) = comma :: left.reverse := by
  have backwards : line.reverse = right.reverse ++ comma :: left.reverse := by
    simp [cut.joined]
  rw [backwards]
  apply takeWhile_dropWhile_append
  · intro byte member
    rw [List.mem_reverse] at member
    rw [bne_iff_ne]
    rintro rfl
    exact cut.no_comma member
  · simp

/-- A line has only one last comma. -/
theorem CutAtLastComma.unique {line left right otherLeft otherRight : Bytes}
    (cut : CutAtLastComma line left right) (other : CutAtLastComma line otherLeft otherRight) :
    otherLeft = left ∧ otherRight = right := by
  obtain ⟨sameRight, sameLeft⟩ := other.reverse
  rw [cut.reverse.1] at sameRight
  rw [cut.reverse.2] at sameLeft
  injection sameLeft with _ sameLeft
  exact ⟨List.reverse_injective sameLeft.symm, List.reverse_injective sameRight.symm⟩

theorem cutAtLastComma_line {record : Record} (canonical : record.IsCanonical)
    (left right : Bytes) :
    CutAtLastComma (Utf8.encode (line record)) left right ↔
      left = Utf8.encode (nameField record.name) ∧ right = Utf8.encode record.size := by
  have cut : CutAtLastComma (Utf8.encode (line record)) (Utf8.encode (nameField record.name))
      (Utf8.encode record.size) :=
    ⟨by rw [line, Utf8.encode_append, Utf8.encode_cons]; rfl, comma_not_mem_size canonical⟩
  constructor
  · exact cut.unique
  · rintro ⟨rfl, rfl⟩
    exact cut

/-! ## Rows -/

theorem rows_eq_lines {records : List Record}
    (canonical : ∀ record ∈ records, record.IsCanonical) :
    rows records = (records.map fun record => Utf8.encode (line record)).flatMap (· ++ rowEnd) := by
  induction records with
  | nil => rfl
  | cons record rest ih =>
      rw [List.forall_mem_cons] at canonical
      rw [rows_cons, row_eq_line canonical.1, ih canonical.2, List.map_cons, List.flatMap_cons]

/-- Rows, if there are any, end with the end of the last one. -/
theorem rowEnd_suffix_rows (records : List Record) :
    rows records = [] ∨ rowEnd <:+ rows records := by
  cases records using List.reverseRecOn with
  | nil => exact Or.inl rfl
  | append_singleton records last =>
      right
      rw [rows_append, rows_cons, rows_nil, List.append_nil, row_eq]
      exact ⟨_, by rw [← List.append_assoc]⟩

end Csv

namespace Extraction

/-- What a successful run writes consists of lines that end in `CR LF` and hold no other line end,
one for each record it counts.  Cut at its last comma, the line of a record shows the size on the
right, and on the left the name: verbatim, or in quotes with its own quotes doubled. -/
theorem received_eq_lines {source : Source} {sink : Sink} (fresh : sink.accepted = [])
    {stats : Stats} (succeeds : (run source sink).outcome = .ok stats) :
    let records := (Report.lines source.delivered).filterMap ClassLine.record?
    let written := (run source sink).sink.received
    ∃ lines : List Bytes,
      written = lines.flatMap (· ++ Csv.rowEnd) ∧
      (∀ line ∈ lines, Csv.carriageReturn ∉ line ∧ Csv.newLine ∉ line) ∧
      lines.length = stats.records ∧
      (written = [] ∨ Csv.rowEnd <:+ written) ∧
      List.Forall₂ (fun line record => ∀ left right, Csv.CutAtLastComma line left right ↔
        left = Utf8.encode (Csv.nameField record.name) ∧ right = Utf8.encode record.size)
        lines records := by
  intro records written
  obtain ⟨whole, received⟩ := received_of_run_eq_ok fresh succeeds
  have counted := stats_of_run_eq_ok fresh succeeds
  rw [linesOf_of_fault?_eq_none whole] at counted
  rw [rowsOf, linesOf_of_fault?_eq_none whole] at received
  have canonical : ∀ record ∈ records, record.IsCanonical := by
    intro record member
    obtain ⟨line, _, found⟩ := List.mem_filterMap.mp member
    exact ClassLine.isCanonical_of_record? found
  have rows : written = Csv.rows records := received
  rw [rows]
  refine ⟨records.map fun record => Utf8.encode (Csv.line record), Csv.rows_eq_lines canonical,
    ?oneLine, ?number, Csv.rowEnd_suffix_rows records, ?fields⟩
  case oneLine =>
    intro line member
    obtain ⟨record, among, rfl⟩ := List.mem_map.mp member
    exact ⟨Csv.not_mem_line (canonical record among) (by decide) (by decide),
      Csv.not_mem_line (canonical record among) (by decide) (by decide)⟩
  case number =>
    rw [List.length_map, counted]
    exact Report.length_records _
  case fields =>
    rw [List.forall₂_map_left_iff, List.forall₂_same]
    intro record among
    exact Csv.cutAtLastComma_line (canonical record among)

/-- A quoted name and a numeral of another script, written through a medium that holds one byte
back; the line end between the two class lines is a carriage return. -/
theorem received_eq_lines_quoted_name :
    let source := Source.chunked 3 (Utf8.encode "@@ Class 5 we\"ird,name\r@@ Class ٣ p\n".toList)
    let sink : Sink := { capacity := 1 }
    sink.accepted = [] ∧ (run source sink).outcome = .ok ⟨2, 2, 2, 0⟩ ∧
      ∃ first second,
        (run source sink).sink.received = first ++ Csv.rowEnd ++ (second ++ Csv.rowEnd) ∧
        Csv.CutAtLastComma first (Utf8.encode "\"we\"\"ird,name\"".toList)
          (Utf8.encode ['5']) ∧
        Csv.CutAtLastComma second (Utf8.encode ['p']) (Utf8.encode ['٣']) := by
  intro source sink
  have whole : source.fault? = none := by decide
  have lines : linesOf source = ["@@ Class 5 we\"ird,name".toList, "@@ Class ٣ p".toList] := by
    rw [linesOf_of_fault?_eq_none whole]
    decide
  have succeeds : (run source sink).outcome = .ok ⟨2, 2, 2, 0⟩ := by
    rw [(run_complete rfl whole (by simp [sink]) rfl).1, lines]
    decide
  have found : (Report.lines source.delivered).filterMap ClassLine.record? =
      [⟨"we\"ird,name".toList, ['5']⟩, ⟨['p'], ['٣']⟩] := by
    rw [← linesOf_of_fault?_eq_none whole, lines]
    decide
  obtain ⟨_, written, _, _, _, cuts⟩ := received_eq_lines rfl succeeds
  rw [found] at cuts
  cases cuts with
  | cons first cuts =>
      cases cuts with
      | cons second cuts =>
          cases cuts
          refine ⟨rfl, succeeds, _, _, ?_, (first _ _).mpr ⟨by decide, rfl⟩,
            (second _ _).mpr ⟨by decide, rfl⟩⟩
          rw [written]
          simp

end Extraction

end ClassSizes
