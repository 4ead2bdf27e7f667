import ClassSizes.Proofs.Report.Grammar
import ClassSizes.Proofs.Report.Reference
import ClassSizes.Proofs.Text.Encoding

/-!
# Canonical records

A record is canonical when its name is in slash form and can stand in a class line, and its size is
a numeral of some script.  The records of a run are all canonical, and there are no other
restrictions on them: the report that says each canonical record in the plainest way yields exactly
these records.
-/

namespace ClassSizes

/-- A name in slash form that can stand in a class line, and a size of decimal digits. -/
structure Record.IsCanonical (record : Record) : Prop where
  name_ne_nil : record.name ≠ []
  name_solid : ∀ character ∈ record.name, isBlank character = false
  no_dot : '.' ∉ record.name
  no_address : ¬ClassName.address <:+: record.name
  size_ne_nil : record.size ≠ []
  size_digits : ∀ character ∈ record.size, isDecimalDigit character = true

theorem Record.isCanonical_iff (record : Record) :
    record.IsCanonical ↔
      (record.name ≠ [] ∧ record.name.all (!isBlank ·) = true ∧ '.' ∉ record.name ∧
        occursIn ClassName.address record.name = false) ∧
        record.size ≠ [] ∧ record.size.all isDecimalDigit = true := by
  rw [← Bool.not_eq_true (occursIn _ _), occursIn_iff, List.all_eq_true, List.all_eq_true]
  simp only [Bool.not_eq_true']
  constructor
  · rintro ⟨someName, solid, noDot, noAddress, someSize, digits⟩
    exact ⟨⟨someName, solid, noDot, noAddress⟩, someSize, digits⟩
  · rintro ⟨⟨someName, solid, noDot, noAddress⟩, someSize, digits⟩
    exact ⟨someName, solid, noDot, noAddress, someSize, digits⟩

instance (record : Record) : Decidable record.IsCanonical :=
  decidable_of_iff _ record.isCanonical_iff.symm

namespace ClassLine

/-- The plainest line that says a record. -/
def ofRecord (record : Record) : Text :=
  marker ++ ' ' :: record.size ++ ' ' :: record.name

theorem isCanonical_of_shape? {text : Text} {record : Record}
    (conforms : shape? text = some record) : record.IsCanonical := by
  obtain ⟨before, between, name, rest, shape, slashed, _⟩ := shape?_eq_some_iff.mp conforms
  refine ⟨?_, ?_, ?_, ?_, shape.size_ne_nil, shape.size_digits⟩
  all_goals rw [slashed]
  · intro empty
    have length := ClassName.length_slashForm name
    rw [empty] at length
    exact shape.name_ne_nil (List.length_eq_zero_iff.mp length.symm)
  · exact ClassName.forall_mem_slashForm (by decide) (by decide) shape.name_solid
  · exact ClassName.dot_not_mem_slashForm name
  · exact ClassName.address_not_infix_slashForm name

theorem isCanonical_of_record? {line : Text} {record : Record}
    (found : record? line = some record) : record.IsCanonical := by
  rw [record?_eq_search] at found
  obtain ⟨_, text, _, conforms, _⟩ := exists_first_of_search found
  exact isCanonical_of_shape? conforms

/-- The plainest line of a canonical record holds that record: its first marker is the one that
counts, and the name is its own slash form. -/
theorem record?_ofRecord {record : Record} (canonical : record.IsCanonical) :
    record? (ofRecord record) = some record := by
  have shape : Shape [' '] record.size [' '] record.name [] :=
    ⟨nofun, List.forall_mem_singleton.mpr rfl, canonical.size_ne_nil, canonical.size_digits, nofun,
      List.forall_mem_singleton.mpr rfl, canonical.name_ne_nil, canonical.name_solid, nofun⟩
  have line : ofRecord record =
      marker ++ ([' '] ++ (record.size ++ ([' '] ++ (record.name ++ [])))) := by
    simp [ofRecord]
  rw [line]
  refine record?_marker_append (shape?_eq_some_iff.mpr ⟨_, _, _, _, shape, ?_, rfl⟩)
  exact (ClassName.slashForm_eq_self canonical.no_dot canonical.no_address).symm

/-- No line end stands in the line of a canonical record. -/
theorem not_mem_ofRecord {record : Record} (canonical : record.IsCanonical) {ending : Char}
    (blank : isBlank ending = true) (notSpace : ending ≠ ' ') : ending ∉ ofRecord record := by
  have notInMarker : ending ∉ marker := by
    intro member
    have solid : marker.all (fun character => !isBlank character || character == ' ') = true := rfl
    have space := List.all_eq_true.mp solid ending member
    rw [blank, Bool.not_true, Bool.false_or, beq_iff_eq] at space
    exact notSpace space
  have notInSize : ending ∉ record.size := by
    intro member
    have digit := canonical.size_digits ending member
    rw [isDecimalDigit_eq_false_of_isBlank blank] at digit
    contradiction
  have notInName : ending ∉ record.name := by
    intro member
    rw [canonical.name_solid ending member] at blank
    contradiction
  simp [ofRecord, notInMarker, notInSize, notInName, notSpace]

end ClassLine

namespace Report

/-- The report that says records in the plainest way, a line each. -/
def ofRecords (records : List Record) : Text :=
  records.flatMap fun record => ClassLine.ofRecord record ++ ['\n']

theorem cutAt_of_not_mem {separator : Char} {text : Text} (absent : separator ∉ text) :
    cutAt separator text = [text] := by
  induction text with
  | nil => rfl
  | cons character rest ih =>
      rw [List.mem_cons, not_or] at absent
      rw [cutAt_cons_of_ne (Ne.symm absent.1), ih absent.2, extendFirst]

/-- A text without line ends is a line if a line feed follows. -/
theorem lines_encode_append {line : Text} (noFeed : '\n' ∉ line) (noReturn : '\r' ∉ line)
    (rest : Bytes) :
    lines (Utf8.encode line ++ lineFeed :: rest) = line :: lines rest := by
  have noFeedByte : lineFeed ∉ Utf8.encode line :=
    fun member => noFeed ((Utf8.mem_encode_iff (by decide) line).mp member)
  have decoded : Utf8.decodeLossy (Utf8.encode line ++ [lineFeed]) = line ++ ['\n'] := by
    rw [decodeLossy_append_lineFeed, Utf8.decodeLossy_encode, Utf8.decodeLossy_nil]
  rw [lines_append_lineFeed noFeedByte, linesOfPiece, decoded, linesOfText, dropEnd_concat,
    dropEnd_of_not_mem noReturn, cutAt_of_not_mem noReturn, List.singleton_append]

theorem lines_encode_ofRecords {records : List Record}
    (canonical : ∀ record ∈ records, record.IsCanonical) :
    lines (Utf8.encode (ofRecords records)) = records.map ClassLine.ofRecord := by
  induction records with
  | nil => rfl
  | cons record rest ih =>
      rw [List.forall_mem_cons] at canonical
      have encoded : Utf8.encode (ofRecords (record :: rest)) =
          Utf8.encode (ClassLine.ofRecord record) ++ lineFeed :: Utf8.encode (ofRecords rest) := by
        simp only [ofRecords, List.flatMap_cons, Utf8.encode_append, List.append_assoc]
        rfl
      rw [encoded, List.map_cons, ← ih canonical.2]
      exact lines_encode_append
        (ClassLine.not_mem_ofRecord canonical.1 (by decide) (by decide))
        (ClassLine.not_mem_ofRecord canonical.1 (by decide) (by decide)) _

theorem records_map_ofRecord {records : List Record}
    (canonical : ∀ record ∈ records, record.IsCanonical) :
    Report.records (records.map ClassLine.ofRecord) = records := by
  induction records with
  | nil => rfl
  | cons record rest ih =>
      rw [List.forall_mem_cons] at canonical
      rw [Report.records] at ih ⊢
      rw [List.map_cons, List.filterMap_cons_some (ClassLine.record?_ofRecord canonical.1),
        ih canonical.2]

theorem isCanonical_of_mem_records {lines : List Text} {record : Record}
    (member : record ∈ Report.records lines) : record.IsCanonical := by
  rcases List.mem_filterMap.mp member with ⟨line, _, found⟩
  exact ClassLine.isCanonical_of_record? found

/-- When every line holds a record, each is counted three times and none is skipped. -/
theorem stats_of_length_records {lines : List Text} (all : (records lines).length = lines.length) :
    stats lines = ⟨lines.length, lines.length, lines.length, 0⟩ := by
  have markers := markerLines_eq lines
  have bound : (stats lines).markerLines ≤ lines.length := List.countP_le_length
  rw [length_records] at all
  rw [all] at markers
  have none_skipped : (stats lines).skipped = 0 := by omega
  rw [none_skipped, Nat.add_zero] at markers
  calc
    stats lines =
        ⟨(stats lines).lines, (stats lines).markerLines, (stats lines).records,
          (stats lines).skipped⟩ := rfl
    _ = ⟨lines.length, lines.length, lines.length, 0⟩ := by
        rw [markers, all, none_skipped]
        rfl

end Report

namespace Extraction

/-- The records of a run are canonical, and every list of canonical records is the list of records
of some run: that over the report which says them in the plainest way. -/
theorem records_canonical (capacity : Nat) :
    (∀ source, ∃ records, (run source { capacity }).sink.received = Csv.rows records ∧
      ∀ record ∈ records, record.IsCanonical) ∧
      ∀ records : List Record, (∀ record ∈ records, record.IsCanonical) →
        let result := run (.whole (Utf8.encode (Report.ofRecords records))) { capacity }
        result.outcome = .ok ⟨records.length, records.length, records.length, 0⟩ ∧
          result.sink.received = Csv.rows records := by
  constructor
  · intro source
    refine ⟨Report.records (linesOf source), received_run rfl source, fun record member => ?_⟩
    obtain ⟨line, _, found⟩ := List.mem_filterMap.mp member
    exact ClassLine.isCanonical_of_record? found
  · intro records canonical result
    have read : linesOf (.whole (Utf8.encode (Report.ofRecords records))) =
        records.map ClassLine.ofRecord := by
      rw [linesOf_of_fault?_eq_none (Source.fault?_whole _), Source.delivered_whole,
        Report.lines_encode_ofRecords canonical]
    have found := Report.records_map_ofRecord canonical
    have all : (Report.records (records.map ClassLine.ofRecord)).length =
        (records.map ClassLine.ofRecord).length := by
      rw [found, List.length_map]
    have counted := Report.stats_of_length_records all
    rw [List.length_map] at counted
    obtain ⟨outcome, received, _⟩ :=
      run_unlimited capacity (Source.fault?_whole (Utf8.encode (Report.ofRecords records)))
    rw [read, counted] at outcome
    rw [rowsOf, read, found] at received
    exact ⟨outcome, received⟩

/-- A name that looks like a marker, a name that needs quotes, and a size in Arabic digits. -/
theorem records_canonical_odd_names :
    let records : List Record := [⟨"@@".toList, "07".toList⟩, ⟨"+0x0x,\"".toList, "٣".toList⟩]
    let result := run (.whole (Utf8.encode (Report.ofRecords records))) {}
    (∀ record ∈ records, record.IsCanonical) ∧ result.outcome = .ok ⟨2, 2, 2, 0⟩ ∧
      result.sink.received = Utf8.encode "@@,07\r\n\"+0x0x,\"\"\",٣\r\n".toList := by
  intro records result
  have canonical : ∀ record ∈ records, record.IsCanonical := by decide
  obtain ⟨outcome, received⟩ := (records_canonical 0).2 records canonical
  exact ⟨canonical, outcome, received.trans (by decide)⟩

end Extraction

end ClassSizes
