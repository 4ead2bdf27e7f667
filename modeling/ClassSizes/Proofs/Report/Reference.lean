import ClassSizes.Proofs.Report.Run

/-!
# A run and its report

A run to its end, with room for everything, makes of a report what the lines of the whole report
make, however the report is delivered and whatever the sink holds back.
-/

namespace ClassSizes.Extraction

theorem linesOf_of_fault?_eq_none {source : Source} (whole : source.fault? = none) :
    linesOf source = Report.lines source.delivered := by
  rw [linesOf, whole]

theorem rowsOf_whole_delivered {source : Source} (whole : source.fault? = none) :
    rowsOf (.whole source.delivered) = rowsOf source := by
  rw [rowsOf, linesOf_of_fault?_eq_none (Source.fault?_whole _), Source.delivered_whole, rowsOf,
    linesOf_of_fault?_eq_none whole]

/-- Nothing but a fault or a lack of room keeps a run from its end. -/
theorem run_complete {source : Source} {sink : Sink} (fresh : sink.accepted = [])
    (whole : source.fault? = none) (fits : ∀ limit ∈ sink.room, (rowsOf source).length ≤ limit)
    (flushes : sink.flushFault = none) :
    (run source sink).outcome = .ok (Report.stats (linesOf source)) ∧
      (run source sink).log = Report.skips 1 (linesOf source) := by
  have ended := run_ended fresh source
  generalize (run source sink).outcome = outcome, (run source sink).log = log at ended ⊢
  cases ended with
  | roomRefused room short _ =>
      have := spilledOf_le_length source
      have := fits _ room
      omega
  | sourceFailed fault _ =>
      rw [whole] at fault
      contradiction
  | restRefused _ room short _ => exact absurd (fits _ room) (Nat.not_le_of_lt short)
  | flushFailed _ _ fault =>
      rw [flushes] at fault
      contradiction
  | complete => exact ⟨rfl, rfl⟩

/-- A run that has nothing to read makes nothing, however little room there is. -/
theorem run_nothing {sink : Sink} (fresh : sink.accepted = []) (flushes : sink.flushFault = none) :
    (run (.whole []) sink).outcome = .ok {} ∧ (run (.whole []) sink).sink.received = [] := by
  refine ⟨(run_complete fresh rfl (fun _ _ => Nat.zero_le _) flushes).1, ?_⟩
  have nothing : rowsOf (.whole []) = [] := rfl
  rw [received_run fresh, nothing, Sink.fitting]
  cases sink.bound? with
  | none => rfl
  | some bound => exact List.take_nil

/-- A run that succeeds has read its source to the end, and the medium has received every row. -/
theorem received_of_run_eq_ok {source : Source} {sink : Sink} (fresh : sink.accepted = [])
    {stats : Stats} (succeeds : (run source sink).outcome = .ok stats) :
    source.fault? = none ∧ (run source sink).sink.received = rowsOf source := by
  have ended := run_ended fresh source
  rw [succeeds] at ended
  generalize (run source sink).log = log at ended
  cases ended with
  | complete whole fits _ =>
      refine ⟨whole, ?_⟩
      rw [received_run fresh, Sink.fitting, bound?_of_fresh fresh]
      cases room : sink.room with
      | none => rfl
      | some limit => exact List.take_of_length_le (fits limit room)

/-- A run that succeeds has counted every line of its source. -/
theorem stats_of_run_eq_ok {source : Source} {sink : Sink} (fresh : sink.accepted = [])
    {stats : Stats} (succeeds : (run source sink).outcome = .ok stats) :
    stats = Report.stats (linesOf source) := by
  have ended := run_ended fresh source
  rw [succeeds] at ended
  generalize (run source sink).log = log at ended
  cases ended with
  | complete => rfl

/-- A run to its end with room for everything. -/
theorem run_unlimited {source : Source} (capacity : Nat) (whole : source.fault? = none) :
    (run source { capacity }).outcome = .ok (Report.stats (linesOf source)) ∧
      (run source { capacity }).sink.received = rowsOf source ∧
      (run source { capacity }).log = Report.skips 1 (linesOf source) := by
  obtain ⟨outcome, log⟩ :
      (run source { capacity }).outcome = .ok (Report.stats (linesOf source)) ∧
        (run source { capacity }).log = Report.skips 1 (linesOf source) :=
    run_complete rfl whole (by simp) rfl
  exact ⟨outcome, received_run rfl source, log⟩

/-- The rows of a source that is read to its end are those of its bytes. -/
theorem received_run_whole {source : Source} (whole : source.fault? = none) :
    (run (.whole source.delivered) {}).sink.received = rowsOf source := by
  rw [(run_unlimited 0 (Source.fault?_whole _)).2.1, rowsOf_whole_delivered whole]

/-- A run to its end is a function of the lines of the whole report.  It makes a row of every line
that holds a record, counts every line, and logs the positions of those that carry the marker and
hold no record. -/
theorem run_eq_reference (source : Source) (capacity : Nat) (whole : source.fault? = none) :
    let lines := Report.lines source.delivered
    let result := run source { capacity }
    ∃ (stats : Stats) (positions : List Nat),
      result.outcome = .ok stats ∧
      result.sink.received = Csv.rows (lines.filterMap ClassLine.record?) ∧
      stats.lines = lines.length ∧
      stats.markerLines = lines.countP ClassLine.hasMarker ∧
      stats.records = lines.countP (fun line => (ClassLine.record? line).isSome) ∧
      stats.skipped =
        lines.countP (fun line => ClassLine.hasMarker line && (ClassLine.record? line).isNone) ∧
      stats.markerLines = stats.records + stats.skipped ∧ stats.markerLines ≤ stats.lines ∧
      result.log = positions.map .lineSkipped ∧ positions.Pairwise (· < ·) ∧
      ∀ position, position ∈ positions ↔
        1 ≤ position ∧ ∃ line, lines[position - 1]? = some line ∧
          ClassLine.hasMarker line = true ∧ ClassLine.record? line = none := by
  intro lines result
  have sameLines : linesOf source = lines := linesOf_of_fault?_eq_none whole
  obtain ⟨outcome, received, log⟩ := run_unlimited capacity whole
  rw [sameLines] at outcome log
  rw [rowsOf, sameLines] at received
  have positions (position : Nat) :
      position ∈ Report.skippedPositions 1 lines ↔
        1 ≤ position ∧ ∃ line, lines[position - 1]? = some line ∧
          ClassLine.hasMarker line = true ∧ ClassLine.record? line = none := by
    simp [Report.mem_skippedPositions_iff, Report.isSkipped]
  exact ⟨Report.stats lines, Report.skippedPositions 1 lines, outcome, received, rfl, rfl, rfl,
    rfl, Report.markerLines_eq lines, List.countP_le_length, log,
    Report.pairwise_skippedPositions 1 lines, positions⟩

/-- Four lines, the last of which is noise, delivered with interruptions. -/
theorem run_eq_reference_interrupted :
    let report := Utf8.encode "one\r@@ Class 7 A\r\n@@ Class\n".toList ++ [0xC3]
    let source := (Source.chunked 5 report).interruptedThroughout
    source.fault? = none ∧
      ∃ (stats : Stats) (positions : List Nat),
        (run source { capacity := 4 }).outcome = .ok stats ∧ stats.lines = 4 ∧
        (run source { capacity := 4 }).sink.received = Utf8.encode "A,7\r\n".toList ∧
        (run source { capacity := 4 }).log = positions.map .lineSkipped ∧ 3 ∈ positions := by
  intro report source
  obtain ⟨stats, positions, outcome, received, lines, _, _, _, _, _, log, _, mem⟩ :=
    run_eq_reference source 4 (by decide)
  exact ⟨by decide, stats, positions, outcome, lines.trans (by decide),
    received.trans (by decide), log, (mem 3).mpr ⟨by decide, _, rfl, by decide, by decide⟩⟩

end ClassSizes.Extraction
