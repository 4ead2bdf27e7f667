import ClassSizes.Proofs.Csv.RoundTrip
import ClassSizes.Proofs.Report.Reference

/-!
# The table of a run

What a run has written is read as the table of the records that it has found, except that a byte
order mark at the front of the first name is taken for one of the file.
-/

namespace ClassSizes.Extraction

/-- The rows of a run are always read as a table of as many records.  They are the records that
the run has found exactly if the first name does not begin with a byte order mark outside
quotes. -/
theorem read_run_iff (source : Source) (whole : source.fault? = none) :
    let records := (Report.lines source.delivered).filterMap ClassLine.record?
    let result := run source {}
    ∃ stats table,
      result.outcome = .ok stats ∧ result.sink.received = Csv.rows records ∧
      Table.read (.whole result.sink.received) = .ok table ∧
      table.length = stats.records ∧ table.toList = Csv.withoutMark records ∧
      ((table.toList = records ∧
          ∀ name, table.get? name = records.find? fun record => record.name = name) ↔
        ∀ first ∈ records.head?, Csv.losesMark first.name = false) := by
  intro records result
  obtain ⟨outcome, received, _⟩ := run_unlimited 0 whole
  rw [linesOf_of_fault?_eq_none whole] at outcome
  rw [rowsOf, linesOf_of_fault?_eq_none whole] at received
  have written : result.sink.received = Csv.rows records := received
  have read := Csv.read_rows records
  have kept : (Table.ofRecords (Csv.withoutMark records)).toList = Csv.withoutMark records :=
    Table.toList_ofRecords _
  refine ⟨_, _, outcome, written, by rw [written, read], ?_, kept, ?_⟩
  · rw [Table.length_eq, kept, Csv.length_withoutMark]
    exact Report.length_records _
  · rw [kept, ← Csv.withoutMark_eq_self_iff]
    constructor
    · exact And.left
    · intro same
      refine ⟨same, fun name => ?_⟩
      rw [Table.get?_eq_find?, kept, same]

theorem read_run_iff_quoted_mark :
    let source := Source.whole (Utf8.encode "@@ Class 8 \uFEFFa,b\n@@ Class 9 c\n".toList)
    source.fault? = none ∧
      ∃ table, Table.read (.whole (run source {}).sink.received) = .ok table ∧
        table.toList = [⟨['\uFEFF', 'a', ',', 'b'], ['8']⟩, ⟨['c'], ['9']⟩] := by
  intro source
  obtain ⟨_, table, _, _, read, _, _, kept⟩ := read_run_iff source rfl
  have records := (kept.mpr (by decide)).1
  exact ⟨rfl, table, read, records.trans (by decide)⟩

/-- The name of the only record is read without its first character, and cannot be looked up. -/
theorem mark_of_first_name_lost :
    let source := Source.whole (Utf8.encode "@@ Class 1 \uFEFFA\n".toList)
    let records := (Report.lines source.delivered).filterMap ClassLine.record?
    let result := run source {}
    source.fault? = none ∧ result.outcome = .ok ⟨1, 1, 1, 0⟩ ∧
      records = [⟨['\uFEFF', 'A'], ['1']⟩] ∧
      ∃ table, Table.read (.whole result.sink.received) = .ok table ∧
        table.toList = [⟨['A'], ['1']⟩] ∧ table.get? ['\uFEFF', 'A'] = none := by
  intro source records result
  have outcome : result.outcome = .ok ⟨1, 1, 1, 0⟩ := by rfl
  have written : result.sink.received = Csv.rows [⟨['\uFEFF', 'A'], ['1']⟩] := by decide
  refine ⟨rfl, outcome, by decide, _, by rw [written, Csv.read_rows], ?_, ?_⟩
  · rw [Table.toList_ofRecords]
    decide
  · rw [Table.get?_eq_find?, Table.toList_ofRecords]
    decide

end ClassSizes.Extraction
