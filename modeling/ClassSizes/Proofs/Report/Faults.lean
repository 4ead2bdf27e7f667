import ClassSizes.Proofs.Report.Reference

/-!
# Runs that meet a fault

A medium that is too small truncates what a run writes and does nothing else, and the run fails.
A source that fails costs the piece that was under way and nothing else: what is written and
logged is what a run over the complete pieces writes and logs.  When both happen, the rows that
had to leave the row buffer before the source failed decide which of the two is reported.
-/

namespace ClassSizes.Extraction

/-- A sink that holds nothing back, in front of a medium with little room. -/
theorem received_limited (source : Source) (limit : Nat) (refusal : Fault)
    (flushFault : Option Fault) :
    (run source { room := some limit, refusal, flushFault }).sink.received =
      (rowsOf source).take limit := by
  rw [received_run rfl source]
  simp [Sink.fitting, Sink.bound?]

section

variable {source : Source} (limit : Nat) (refusal : Fault) (flushFault : Option Fault)

/-- With room for all rows, a run fails only if the medium cannot be flushed. -/
theorem run_of_length_le (whole : source.fault? = none) (fits : (rowsOf source).length ≤ limit) :
    let result := run source { room := some limit, refusal, flushFault }
    result.log = Report.skips 1 (linesOf source) ∧
      result.outcome =
        match flushFault with
        | none => .ok (Report.stats (linesOf source))
        | some fault => .error (.io fault) := by
  intro result
  have spilled := spilledOf_le_length source
  have ended : Ended source _ result.outcome result.log := run_ended rfl source
  generalize result.outcome = outcome, result.log = log at ended ⊢
  cases ended with
  | roomRefused room short _ =>
      cases room
      omega
  | sourceFailed fault _ =>
      rw [whole] at fault
      contradiction
  | restRefused _ room short _ =>
      cases room
      omega
  | flushFailed _ _ flushes =>
      cases flushes
      exact ⟨rfl, rfl⟩
  | complete _ _ flushes =>
      cases flushes
      exact ⟨rfl, rfl⟩

/-- Without room for all rows, a run fails when the row buffer has to make room, or at its end. -/
theorem run_of_lt_length (whole : source.fault? = none) (short : limit < (rowsOf source).length) :
    let result := run source { room := some limit, refusal, flushFault }
    result.outcome = .error (.io refusal) ∧
        (rowsOf source).length - limit ≤ Csv.RowBuffer.capacity ∧
        result.log = Report.skips 1 (linesOf source) ∨
      result.outcome = .error (.csv (.transfer refusal)) ∧
        Csv.RowBuffer.capacity < (rowsOf source).length ∧
        result.log <+: Report.skips 1 (linesOf source) := by
  intro result
  have small := length_le_spilledOf_add source
  have ended : Ended source _ result.outcome result.log := run_ended rfl source
  generalize result.outcome = outcome, result.log = log at ended ⊢
  cases ended with
  | roomRefused room early isPrefix =>
      cases room
      exact Or.inr ⟨rfl, capacity_lt_length (Nat.zero_lt_of_lt early),
        Report.skips_isPrefix isPrefix 1⟩
  | sourceFailed fault _ =>
      rw [whole] at fault
      contradiction
  | restRefused _ room _ late =>
      cases room
      exact Or.inl ⟨rfl, Nat.sub_le_iff_le_add.mpr (by simp only at late; omega), rfl⟩
  | flushFailed _ fits _ => exact absurd (fits limit rfl) (Nat.not_le_of_lt short)
  | complete _ fits _ => exact absurd (fits limit rfl) (Nat.not_le_of_lt short)

/-- A run that returns its counters has written all its rows and flushed the medium. -/
theorem run_succeeds_iff (whole : source.fault? = none) :
    (∃ returned, (run source { room := some limit, refusal, flushFault }).outcome = .ok returned) ↔
      (rowsOf source).length ≤ limit ∧ flushFault = none := by
  constructor
  · rintro ⟨returned, succeeded⟩
    by_cases fits : (rowsOf source).length ≤ limit
    · obtain ⟨_, outcome⟩ := run_of_length_le limit refusal flushFault whole fits
      rw [outcome] at succeeded
      cases flushFault with
      | none => exact ⟨fits, rfl⟩
      | some fault => contradiction
    · rcases run_of_lt_length limit refusal flushFault whole (Nat.lt_of_not_le fits) with
        ⟨outcome, _⟩ | ⟨outcome, _⟩ <;> rw [outcome] at succeeded <;> contradiction
  · rintro ⟨fits, rfl⟩
    exact ⟨_, (run_of_length_le limit refusal none whole fits).2⟩

/-- A fault of the source is reported unless the row buffer had to make room before. -/
theorem run_of_fault {fault : Fault} (fails : source.fault? = some fault) :
    let result := run source { room := some limit, refusal, flushFault }
    result.outcome = .error (.io fault) ∧ spilledOf source ≤ limit ∧
        result.log = Report.skips 1 (linesOf source) ∨
      result.outcome = .error (.csv (.transfer refusal)) ∧ limit < spilledOf source ∧
        result.log <+: Report.skips 1 (linesOf source) := by
  intro result
  have ended : Ended source _ result.outcome result.log := run_ended rfl source
  generalize result.outcome = outcome, result.log = log at ended ⊢
  cases ended with
  | roomRefused room early isPrefix =>
      cases room
      exact Or.inr ⟨rfl, early, Report.skips_isPrefix isPrefix 1⟩
  | sourceFailed reached late =>
      rw [fails] at reached
      cases reached
      exact Or.inl ⟨rfl, late limit rfl, rfl⟩
  | restRefused whole _ _ _ =>
      rw [fails] at whole
      contradiction
  | flushFailed whole _ _ =>
      rw [fails] at whole
      contradiction
  | complete whole _ _ =>
      rw [fails] at whole
      contradiction

end

/-- A fault of the medium truncates what is written and is reported.  It is the last write or the
flush that fails, and then every line has been processed, unless the rows do not fit into the row
buffer. -/
theorem write_fault_truncates (source : Source) (limit : Nat) (refusal : Fault)
    (flushFault : Option Fault) (whole : source.fault? = none) :
    let free := run source {}
    let result := run source { room := some limit, refusal, flushFault }
    let written := free.sink.received
    ∃ stats, free.outcome = .ok stats ∧
      result.sink.received = written.take limit ∧
      ((∃ returned, result.outcome = .ok returned) ↔
        written.length ≤ limit ∧ flushFault = none) ∧
      (written.length ≤ limit → flushFault = none →
        result.outcome = .ok stats ∧ result.log = free.log) ∧
      (∀ fault, written.length ≤ limit → flushFault = some fault →
        result.outcome = .error (.io fault) ∧ result.log = free.log) ∧
      (limit < written.length →
        result.outcome = .error (.io refusal) ∧
            written.length - limit ≤ Csv.RowBuffer.capacity ∧ result.log = free.log ∨
          result.outcome = .error (.csv (.transfer refusal)) ∧
            Csv.RowBuffer.capacity < written.length ∧ result.log <+: free.log) := by
  intro free result written
  obtain ⟨freeOutcome, freeReceived, freeLog⟩ := run_unlimited 0 whole
  have rows : written = rowsOf source := freeReceived
  have logged : free.log = Report.skips 1 (linesOf source) := freeLog
  rw [rows, logged]
  have fitting := run_of_length_le limit refusal flushFault whole
  refine ⟨_, freeOutcome, received_limited source limit refusal flushFault,
    run_succeeds_iff limit refusal flushFault whole, ?_, ?_,
    run_of_lt_length limit refusal flushFault whole⟩
  · rintro fits rfl
    exact ⟨(fitting fits).2, (fitting fits).1⟩
  · rintro fault fits rfl
    exact ⟨(fitting fits).2, (fitting fits).1⟩

theorem write_fault_truncates_short_row :
    let source := Source.whole (Utf8.encode "@@ Class 7 A\n@@ Class\n".toList)
    let result := run source { room := some 2 }
    source.fault? = none ∧ result.sink.received = Utf8.encode "A,".toList ∧
      result.outcome = .error (.io .noSpace) ∧ result.log = [.lineSkipped 2] := by
  intro source result
  have written : (run source {}).sink.received = Utf8.encode "A,7\r\n".toList := by decide
  obtain ⟨_, _, received, _, _, _, refused⟩ := write_fault_truncates source 2 .noSpace none rfl
  rw [written] at received refused
  rcases refused (by decide) with ⟨outcome, _, log⟩ | ⟨_, long, _⟩
  · exact ⟨rfl, received.trans (by decide), outcome, log.trans (by decide)⟩
  · exact absurd long (by decide)

/-- A fault of the source costs the piece that was under way, and is reported unless the medium
refused a full row buffer before. -/
theorem read_fault_keeps_completed (source : Source) (fault : Fault) (part : Bytes) (limit : Nat)
    (refusal : Fault) (flushFault : Option Fault) (fails : source.fault? = some fault)
    (isCompleted : Report.IsCompleted source.delivered part) :
    let free := run (.whole part) {}
    let result := run source { room := some limit, refusal, flushFault }
    let written := free.sink.received
    (∃ stats, free.outcome = .ok stats) ∧
      (∀ returned, result.outcome ≠ .ok returned) ∧
      result.sink.received = written.take limit ∧
      (written.length ≤ limit → result.outcome = .error (.io fault) ∧ result.log = free.log) ∧
      (limit < written.length →
        result.outcome = .error (.io fault) ∧ result.log = free.log ∨
          result.outcome = .error (.csv (.transfer refusal)) ∧ limit < spilledOf source ∧
            Csv.RowBuffer.capacity < written.length ∧ result.log <+: free.log) := by
  intro free result written
  have sameLines : linesOf (.whole part) = linesOf source := by
    rw [linesOf, linesOf, Source.fault?_whole, Source.delivered_whole, fails,
      isCompleted.eq_completed]
  obtain ⟨freeOutcome, freeReceived, freeLog⟩ := run_unlimited 0 (Source.fault?_whole part)
  rw [sameLines] at freeOutcome freeLog
  rw [rowsOf, sameLines] at freeReceived
  have rows : written = rowsOf source := freeReceived
  have logged : free.log = Report.skips 1 (linesOf source) := freeLog
  rw [rows, logged]
  have spilled := spilledOf_le_length source
  have ended := run_of_fault limit refusal flushFault fails
  refine ⟨⟨_, freeOutcome⟩, ?_, received_limited source limit refusal flushFault, ?_, ?_⟩
  · intro returned succeeded
    rcases ended with ⟨failed, _⟩ | ⟨failed, _⟩ <;>
      exact absurd (failed.symm.trans succeeded) (by simp)
  · intro fits
    rcases ended with ⟨failed, _, log⟩ | ⟨_, early, _⟩
    · exact ⟨failed, log⟩
    · omega
  · intro _
    rcases ended with ⟨failed, _, log⟩ | ⟨failed, early, log⟩
    · exact Or.inl ⟨failed, log⟩
    · exact Or.inr ⟨failed, early, capacity_lt_length (Nat.zero_lt_of_lt early), log⟩

theorem read_fault_keeps_completed_torn_line :
    let report := Utf8.encode "@@ Class 7 A\n@@ Class 8 B".toList
    let source := (Source.whole report).thenFails .noSpace
    let part := Utf8.encode "@@ Class 7 A\n".toList
    let result := run source { room := some 9 }
    source.fault? = some .noSpace ∧ Report.IsCompleted source.delivered part ∧
      result.sink.received = Utf8.encode "A,7\r\n".toList ∧
      result.outcome = .error (.io .noSpace) := by
  intro report source part result
  have completed : Report.IsCompleted source.delivered part :=
    Report.isCompleted_completed source.delivered
  have written : (run (.whole part) {}).sink.received = Utf8.encode "A,7\r\n".toList := by decide
  obtain ⟨_, _, received, fits, _⟩ :=
    read_fault_keeps_completed source .noSpace part 9 .noSpace none rfl completed
  rw [written] at received fits
  exact ⟨rfl, completed, received.trans (by decide), (fits (by decide)).1⟩

end ClassSizes.Extraction
