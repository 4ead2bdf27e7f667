import ClassSizes.Proofs.Report.Reference

/-!
# Joined reports

Nothing crosses a line feed.  A report that is continued behind one has the lines of both parts,
however the continuation begins: a continuation byte in front of it is noise, and noise does not
reach back.  Rows, counters and log of a run are functions of the lines, so those of the joined
report are made of those of its parts, and only the positions in the log have to be counted on.
-/

namespace ClassSizes

namespace Report

/-- A report that is empty or ends in a line feed can be continued. -/
theorem lines_append {data : Bytes} (ends : data = [] ∨ data.getLast? = some lineFeed)
    (more : Bytes) : lines (data ++ more) = lines data ++ lines more := by
  induction data using induction_on_pieces with
  | last piece noFeed =>
      have empty : piece = [] :=
        ends.resolve_right fun last => noFeed (List.mem_of_getLast? last)
      subst empty
      rfl
  | next body rest noFeed ih =>
      have restEnds : rest = [] ∨ rest.getLast? = some lineFeed := by
        cases rest with
        | nil => exact Or.inl rfl
        | cons byte rest => exact Or.inr (by simpa using ends)
      rw [List.append_assoc, List.cons_append, lines_append_lineFeed noFeed,
        lines_append_lineFeed noFeed, ih restEnds, List.append_assoc]

end Report

/-- An event as it is reported when so many lines come first. -/
def Log.Event.behind (count : Nat) : Log.Event → Log.Event
  | lineSkipped line => lineSkipped (line + count)
  | completed input output stats => completed input output stats

namespace Report

theorem skippedPositions_add (position count : Nat) (lines : List Text) :
    skippedPositions (position + count) lines =
      (skippedPositions position lines).map (· + count) := by
  induction lines generalizing position with
  | nil => rfl
  | cons line rest ih =>
      have later := ih (position + 1)
      rw [Nat.add_right_comm] at later
      simp only [skippedPositions, List.zipIdx_cons, List.filter_cons] at later ⊢
      split
      · rw [List.map_cons, List.map_cons, List.map_cons, later]
      · exact later

/-- Lines that come later are logged with later positions. -/
theorem skips_add (position count : Nat) (lines : List Text) :
    skips (position + count) lines = (skips position lines).map (.behind count) := by
  rw [skips, skippedPositions_add, skips, List.map_map, List.map_map]
  rfl

end Report

namespace Extraction

/-- A run over joined reports does what the runs over the parts do: its rows are those of the first
and then those of the second, its counters are the sums, and its log is that of the first, followed
by that of the second with every position moved on by the lines of the first. -/
theorem run_joined (capacity : Nat) {first second joined : Source}
    (firstWhole : first.fault? = none) (secondWhole : second.fault? = none)
    (joinedWhole : joined.fault? = none)
    (delivered : joined.delivered = first.delivered ++ second.delivered)
    (ends : first.delivered = [] ∨ first.delivered.getLast? = some lineFeed) :
    let front := run first { capacity }
    let back := run second { capacity }
    let both := run joined { capacity }
    ∃ earlier later : Stats,
      front.outcome = .ok earlier ∧ back.outcome = .ok later ∧
      both.outcome = .ok
        { lines := earlier.lines + later.lines
          markerLines := earlier.markerLines + later.markerLines
          records := earlier.records + later.records
          skipped := earlier.skipped + later.skipped } ∧
      both.sink.received = front.sink.received ++ back.sink.received ∧
      both.log = front.log ++ back.log.map (.behind earlier.lines) := by
  intro front back both
  obtain ⟨frontOutcome, frontReceived, frontLog⟩ := run_unlimited capacity firstWhole
  obtain ⟨backOutcome, backReceived, backLog⟩ := run_unlimited capacity secondWhole
  obtain ⟨outcome, received, log⟩ := run_unlimited capacity joinedWhole
  have lines : linesOf joined = linesOf first ++ linesOf second := by
    rw [linesOf_of_fault?_eq_none joinedWhole, linesOf_of_fault?_eq_none firstWhole,
      linesOf_of_fault?_eq_none secondWhole, delivered, Report.lines_append ends]
  refine ⟨_, _, frontOutcome, backOutcome, ?_, ?_, ?_⟩
  · rw [outcome, lines, Report.stats_append]
    rfl
  · rw [received, frontReceived, backReceived, rowsOf, lines, Report.records, List.filterMap_append,
      Csv.rows_append]
    rfl
  · rw [log, frontLog, backLog, lines, Report.skips_append, Report.skips_add]
    rfl

/-- A continuation that begins with noise, and whose second line is the third of the whole. -/
theorem run_joined_noise_at_seam :
    let front := Source.whole (Utf8.encode "@@ Class 7 A\n".toList)
    let back := Source.whole (0x80 :: Utf8.encode "@@ Class 8 B\r@@ Class".toList)
    let joined := Source.chunked 5 (front.delivered ++ back.delivered)
    (front.fault? = none ∧ back.fault? = none ∧ joined.fault? = none ∧
      joined.delivered = front.delivered ++ back.delivered ∧
      front.delivered.getLast? = some lineFeed) ∧
      (run joined {}).outcome = .ok ⟨3, 3, 2, 1⟩ ∧
      (run joined {}).sink.received = Utf8.encode "A,7\r\nB,8\r\n".toList ∧
      (run joined {}).log = [.lineSkipped 3] := by
  intro front back joined
  have frontWhole : front.fault? = none := rfl
  have backWhole : back.fault? = none := rfl
  have whole : joined.fault? = none := by decide
  have delivered : joined.delivered = front.delivered ++ back.delivered := by decide
  have ends : front.delivered.getLast? = some lineFeed := by decide
  have frontOutcome : (run front {}).outcome = .ok ⟨1, 1, 1, 0⟩ := by rfl
  have backOutcome : (run back {}).outcome = .ok ⟨2, 2, 1, 1⟩ := by rfl
  obtain ⟨earlier, later, frontEq, backEq, outcome, received, log⟩ :=
    run_joined 0 frontWhole backWhole whole delivered (Or.inr ends)
  cases frontOutcome.symm.trans frontEq
  cases backOutcome.symm.trans backEq
  exact ⟨⟨frontWhole, backWhole, whole, delivered, ends⟩, outcome, received.trans (by decide),
    log.trans (by decide)⟩

end Extraction

end ClassSizes
