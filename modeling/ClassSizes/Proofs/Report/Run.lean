import ClassSizes.Proofs.Report.Lines
import ClassSizes.Proofs.Report.Progress
import ClassSizes.Proofs.Stream.Source

/-!
# How a run ends

A run processes the lines of its report, or, if the source fails, those of the complete pieces that
have been delivered.  How the bytes are delivered does not matter.  `Ended` lists the ways in which
a run can end, with all that is known of each; `run_ended` says that there are no others.

However a run ends, the medium has received the rows of its lines as far as they fit
(`received_run`).
-/

namespace ClassSizes.Extraction

/-! ## From deliveries to lines -/

namespace State

theorem takeBytes_append (state : State) (first second : Bytes) :
    state.takeBytes (first ++ second) =
      match state.takeBytes first with
      | (next, none) => next.takeBytes second
      | (next, some failure) => (next, some failure) := by
  induction first generalizing state with
  | nil => rfl
  | cons byte first ih =>
      rw [List.cons_append, takeBytes, takeBytes]
      split
      · rcases state.progress.takePiece (byte :: state.partialPiece).reverse with
          ⟨next, _ | failure⟩
        · exact ih _
        · rfl
      · exact ih _

/-- Bytes without a line feed make the piece under way longer. -/
theorem takeBytes_of_not_mem {piece : Bytes} (noFeed : lineFeed ∉ piece) (state : State) :
    state.takeBytes piece =
      ({ state with partialPiece := piece.reverse ++ state.partialPiece }, none) := by
  induction piece generalizing state with
  | nil => rfl
  | cons byte piece ih =>
      have notFeed : byte ≠ lineFeed := fun feed => noFeed (feed ▸ List.mem_cons_self)
      rw [takeBytes, if_neg notFeed, ih fun member => noFeed (List.mem_cons_of_mem _ member)]
      simp

theorem takeBytes_append_lineFeed {body : Bytes} (noFeed : lineFeed ∉ body)
    (progress : Progress) (rest : Bytes) :
    State.takeBytes { progress } (body ++ lineFeed :: rest) =
      match progress.takePiece (body ++ [lineFeed]) with
      | (next, none) => State.takeBytes { progress := next } rest
      | (next, some failure) => ({ progress := next }, some failure) := by
  rw [takeBytes_append, takeBytes_of_not_mem noFeed]
  rcases taken : progress.takePiece (body ++ [lineFeed]) with ⟨next, _ | failure⟩ <;>
    simp [takeBytes, taken]

/-- Delivered bytes are processed up to the last line feed, line by line. -/
theorem takeBytes_eq (progress : Progress) (data : Bytes) :
    State.takeBytes { progress } data =
      match progress.takeLines (Report.lines (Report.completed data)) with
      | (next, none) =>
          ({ progress := next, partialPiece := (Report.unfinished data).reverse }, none)
      | (next, some failure) => ({ progress := next }, some failure) := by
  induction data using Report.induction_on_pieces generalizing progress with
  | last piece noFeed =>
      rw [takeBytes_of_not_mem noFeed, Report.completed_of_not_mem noFeed,
        Report.unfinished_of_not_mem noFeed, List.append_nil]
      rfl
  | next body rest noFeed ih =>
      rw [takeBytes_append_lineFeed noFeed, Report.completed_append_lineFeed,
        Report.unfinished_append_lineFeed, Report.lines_append_lineFeed noFeed,
        Progress.takeLines_append, Progress.takePiece]
      rcases progress.takeLines (Report.linesOfPiece (body ++ [lineFeed])) with
        ⟨next, _ | failure⟩
      · exact ih next
      · rfl

/-- The end of the input completes the piece under way, unless it is empty. -/
theorem progress_takeEnd (progress : Progress) (piece : Bytes) :
    let outcome := State.takeEnd { progress, partialPiece := piece.reverse }
    (outcome.1.progress, outcome.2) =
      progress.takeLines (if piece = [] then [] else Report.linesOfPiece piece) := by
  by_cases empty : piece = []
  · subst empty
    rfl
  · have reversed : piece.reverse ≠ [] := by simpa using empty
    simp only [takeEnd, if_neg reversed, if_neg empty, List.reverse_reverse]
    rfl

/-- A source is read like the bytes that it delivers, followed by its end or its fault. -/
theorem takeSource_eq (state : State) (source : Source) :
    state.takeSource source =
      match state.takeBytes source.delivered with
      | (next, none) =>
          match source.fault? with
          | none => next.takeEnd
          | some fault => (next, some (.io fault))
      | (next, some failure) => (next, some failure) := by
  induction source generalizing state with
  | nil => rfl
  | cons delivery rest ih =>
      cases delivery with
      | bytes chunk =>
          rw [takeSource, Source.delivered, Source.fault?, takeBytes_append]
          rcases state.takeBytes chunk.bytes with ⟨next, _ | failure⟩
          · exact ih next
          · rfl
      | interrupted => exact ih state
      | failed fault => rfl

end State

/-- The lines that a run processes: those of a report that is read to its end, or those of the
complete pieces in front of a fault. -/
def linesOf (source : Source) : List Text :=
  match source.fault? with
  | none => Report.lines source.delivered
  | some _ => Report.lines (Report.completed source.delivered)

/-- What a run leaves behind when it has processed its lines. -/
def settle : Progress × Option Failure → Result
  | (progress, some failure) =>
      ⟨.error failure, progress.buffer.close, progress.log.reverse⟩
  | (progress, none) =>
      ⟨(conclude progress).1, (conclude progress).2.close, progress.log.reverse⟩

/-- A run processes its lines and then meets the fault of its source, if there is one. -/
theorem run_eq_settle (source : Source) (sink : Sink) :
    run source sink =
      settle (match Progress.takeLines { buffer := { sink } } (linesOf source) with
        | (progress, none) => (progress, source.fault?.map .io)
        | (progress, some failure) => (progress, some failure)) := by
  rw [run, State.takeSource_eq, State.takeBytes_eq, linesOf]
  cases source.fault? with
  | some fault =>
      rcases Progress.takeLines { buffer := { sink } }
        (Report.lines (Report.completed source.delivered)) with ⟨next, _ | failure⟩ <;> rfl
  | none =>
      rw [Report.lines_eq_completed_append source.delivered, Progress.takeLines_append]
      rcases Progress.takeLines { buffer := { sink } }
        (Report.lines (Report.completed source.delivered)) with ⟨next, _ | failure⟩
      · have ending := State.progress_takeEnd next (Report.unfinished source.delivered)
        simp only at ending ⊢
        rw [← ending]
        generalize State.takeEnd _ = outcome
        rcases outcome with ⟨last, _ | failure⟩ <;> rfl
      · rfl

/-! ## The ways in which a run ends -/

/-- The rows of the lines that a run processes. -/
def rowsOf (source : Source) : Bytes :=
  Csv.rows (Report.records (linesOf source))

/-- How many bytes of these rows leave the row buffer to make room for others. -/
def spilledOf (source : Source) : Nat :=
  Csv.RowBuffer.spilled 0 ((Report.records (linesOf source)).flatMap Csv.recordAtoms)

theorem spilledOf_le_length (source : Source) : spilledOf source ≤ (rowsOf source).length := by
  have spilled := Csv.RowBuffer.spilled_le 0
    ((Report.records (linesOf source)).flatMap Csv.recordAtoms)
  rw [Csv.RowBuffer.flatten_flatMap_recordAtoms, Nat.zero_add] at spilled
  exact spilled

/-- At most a full row buffer is left for the end of a run. -/
theorem length_le_spilledOf_add (source : Source) :
    (rowsOf source).length ≤ spilledOf source + Csv.RowBuffer.capacity := by
  have spilled := Csv.RowBuffer.le_spilled_add_capacity (Nat.zero_le _)
    (Csv.RowBuffer.length_le_capacity_of_mem_atoms (Report.records (linesOf source)))
  rw [Csv.RowBuffer.flatten_flatMap_recordAtoms, Nat.zero_add] at spilled
  exact spilled

/-- Nothing leaves the row buffer early while all the rows fit into it. -/
theorem capacity_lt_length {source : Source} (spills : 0 < spilledOf source) :
    Csv.RowBuffer.capacity < (rowsOf source).length := by
  by_contra fits
  have nothing : spilledOf source = 0 := by
    apply Csv.RowBuffer.spilled_eq_zero
    rw [Csv.RowBuffer.flatten_flatMap_recordAtoms, Nat.zero_add]
    exact Nat.le_of_not_lt fits
  exact Nat.ne_of_gt spills nothing

/-- How a run to a fresh sink can end, with its log. -/
inductive Ended (source : Source) (sink : Sink) : Except Failure Stats → List Log.Event → Prop
  /-- The medium was full when the row buffer had to make room. -/
  | roomRefused {limit : Nat} {processed : List Text} :
      sink.room = some limit → limit < spilledOf source → processed <+: linesOf source →
      Ended source sink (.error (.csv (.transfer sink.refusal))) (Report.skips 1 processed)
  /-- The source failed, after the row buffer had always made room. -/
  | sourceFailed {fault : Fault} :
      source.fault? = some fault →
      (∀ limit ∈ sink.room, spilledOf source ≤ limit + sink.capacity) →
      Ended source sink (.error (.io fault)) (Report.skips 1 (linesOf source))
  /-- The medium was full at the end. -/
  | restRefused {limit : Nat} :
      source.fault? = none → sink.room = some limit → limit < (rowsOf source).length →
      spilledOf source ≤ limit + sink.capacity →
      Ended source sink (.error (.io sink.refusal)) (Report.skips 1 (linesOf source))
  /-- The medium took everything but could not be flushed. -/
  | flushFailed {fault : Fault} :
      source.fault? = none → (∀ limit ∈ sink.room, (rowsOf source).length ≤ limit) →
      sink.flushFault = some fault →
      Ended source sink (.error (.io fault)) (Report.skips 1 (linesOf source))
  /-- Everything was written. -/
  | complete :
      source.fault? = none → (∀ limit ∈ sink.room, (rowsOf source).length ≤ limit) →
      sink.flushFault = none →
      Ended source sink (.ok (Report.stats (linesOf source))) (Report.skips 1 (linesOf source))

/-! ## What a run has come to -/

/-- What a run has come to when it has processed its lines: it stopped at a row for which the
medium had no room, or holds all its rows. -/
inductive Processed (source : Source) (sink : Sink) : Progress × Option Failure → Prop
  | stopped {processed : List Text} {buffer : Csv.RowBuffer} :
      processed <+: linesOf source → sink.SameMedium buffer.sink →
      buffer.sink.Exhausted ((rowsOf source).take (spilledOf source)) →
      Processed source sink
        (Progress.after { buffer := { sink } } processed buffer,
          some (.csv (.transfer sink.refusal)))
  | through {buffer : Csv.RowBuffer} :
      Csv.RowBuffer.Carries sink buffer (rowsOf source) →
      buffer.sink.accepted.length = spilledOf source →
      Processed source sink
        (Progress.after { buffer := { sink } } (linesOf source) buffer, none)

/-- The log of a run over its first lines. -/
theorem log_after_fresh (sink : Sink) (lines : List Text) (buffer : Csv.RowBuffer) :
    (Progress.after { buffer := { sink } } lines buffer).log.reverse = Report.skips 1 lines := by
  simp [Progress.after]

/-- The counters of a run over its first lines. -/
theorem stats_after_fresh (sink : Sink) (lines : List Text) (buffer : Csv.RowBuffer) :
    (Progress.after { buffer := { sink } } lines buffer).stats = Report.stats lines := by
  simp [Progress.after, Stats.add_def]

theorem conclude_eq (progress : Progress) :
    conclude progress =
      (match progress.buffer.flush.2 with
        | none => .ok progress.stats
        | some fault => .error (.io fault),
        progress.buffer.flush.1) := by
  unfold conclude
  rcases progress.buffer.flush with ⟨buffer, _ | fault⟩ <;> rfl

section

variable {sink : Sink} (fresh : sink.accepted = [])

include fresh

/-- The bound of a fresh sink is its room. -/
theorem bound?_of_fresh : sink.bound? = sink.room := by
  have received : sink.received = [] := (List.append_eq_nil_iff.mp fresh).1
  rw [Sink.bound?, received]
  cases sink.room <;> simp

theorem carries_of_fresh : Csv.RowBuffer.Carries sink { sink } [] := by
  have held : sink.held = [] := (List.append_eq_nil_iff.mp fresh).2
  simpa only [fresh] using Csv.RowBuffer.carries_fresh sink (by simp [held])

/-- The rows of a run, put into its fresh buffer. -/
theorem putRows_of_fresh (source : Source) :
    match Progress.putRows { buffer := { sink } } (linesOf source) with
    | (buffer, none) =>
        Csv.RowBuffer.Carries sink buffer (rowsOf source) ∧
          buffer.sink.accepted.length = spilledOf source
    | (buffer, some fault) =>
        sink.SameMedium buffer.sink ∧
          buffer.sink.Exhausted ((rowsOf source).take (spilledOf source)) ∧
          fault = sink.refusal := by
  have put := (carries_of_fresh fresh).putAtoms
    (Csv.RowBuffer.length_le_capacity_of_mem_atoms (Report.records (linesOf source)))
  rw [fresh, Csv.RowBuffer.flatten_flatMap_recordAtoms, List.nil_append, List.length_nil,
    Nat.zero_add] at put
  exact put

theorem processed_takeLines (source : Source) :
    Processed source sink (Progress.takeLines { buffer := { sink } } (linesOf source)) := by
  have put := putRows_of_fresh fresh source
  cases result : Progress.putRows { buffer := { sink } } (linesOf source) with
  | mk buffer fault =>
      rw [result] at put
      cases fault with
      | none =>
          rw [Progress.takeLines_of_putRows_eq_none result]
          exact .through put.1 put.2
      | some fault =>
          obtain ⟨processed, isPrefix, stopped⟩ := Progress.takeLines_of_putRows_eq_some result
          rw [stopped, put.2.2]
          exact .stopped isPrefix put.1 put.2.1

/-! ## Every run ends in one of these ways -/

/-- A medium that was too small for a stream had room for less than the stream. -/
theorem room_of_exhausted {after : Sink} {stream : Bytes} (same : sink.SameMedium after)
    (exhausted : after.Exhausted stream) :
    ∃ limit, sink.room = some limit ∧ limit < stream.length := by
  refine ⟨after.received.length, ?_, exhausted.received_short⟩
  rw [← bound?_of_fresh fresh, ← same.bound?_eq, exhausted.bound?_eq]

theorem length_received_le {after : Sink} (same : sink.SameMedium after) :
    ∀ limit ∈ sink.room, after.received.length ≤ limit := by
  intro limit room
  rw [← bound?_of_fresh fresh, ← same.bound?_eq] at room
  obtain ⟨left, _, rfl⟩ := Option.map_eq_some_iff.mp room
  exact Nat.le_add_right _ _

/-- What has left the row buffer early is in the medium or in the buffer of the sink. -/
theorem spilledOf_le {source : Source} {buffer : Csv.RowBuffer} {stream : Bytes}
    (carries : Csv.RowBuffer.Carries sink buffer stream)
    (accepted : buffer.sink.accepted.length = spilledOf source) :
    ∀ limit ∈ sink.room, spilledOf source ≤ limit + sink.capacity := by
  intro limit room
  have received := length_received_le fresh carries.sameMedium limit room
  have held := carries.held_le
  rw [carries.sameMedium.capacity_eq] at held
  rw [← accepted, Sink.accepted, List.length_append]
  exact Nat.add_le_add received held

/-- A run that reads its report to the end flushes its rows. -/
theorem ended_conclude {source : Source} {buffer : Csv.RowBuffer} (whole : source.fault? = none)
    (carries : Csv.RowBuffer.Carries sink buffer (rowsOf source))
    (accepted : buffer.sink.accepted.length = spilledOf source) :
    Ended source sink
      (conclude (Progress.after { buffer := { sink } } (linesOf source) buffer)).1
      (Report.skips 1 (linesOf source)) := by
  obtain ⟨same, ⟨exhausted, refused⟩ | ⟨⟨received, _⟩, _, flushed⟩⟩ := carries.flush
  · obtain ⟨limit, room, short⟩ := room_of_exhausted fresh same exhausted
    simp only [conclude_eq, Progress.after, refused]
    exact .restRefused whole room short (spilledOf_le fresh carries accepted limit room)
  · have fits := length_received_le fresh same
    rw [received] at fits
    simp only [conclude_eq, stats_after_fresh]
    simp only [Progress.after, flushed]
    cases flushFault : sink.flushFault with
    | none => exact .complete whole fits flushFault
    | some fault => exact .flushFailed whole fits flushFault

theorem run_ended (source : Source) :
    Ended source sink (run source sink).outcome (run source sink).log := by
  have processed := processed_takeLines fresh source
  rw [run_eq_settle]
  generalize Progress.takeLines { buffer := { sink } } (linesOf source) = outcome at processed ⊢
  cases processed with
  | stopped isPrefix same exhausted =>
      obtain ⟨limit, room, short⟩ := room_of_exhausted fresh same exhausted
      simp only [settle, log_after_fresh]
      refine .roomRefused room (Nat.lt_of_lt_of_le short ?_) isPrefix
      exact List.length_take_le _ _
  | through carries accepted =>
      cases fault : source.fault? with
      | none =>
          simp only [settle, Option.map_none, log_after_fresh]
          exact ended_conclude fresh fault carries accepted
      | some fault =>
          simp only [settle, Option.map_some, log_after_fresh]
          exact .sourceFailed ‹_› (spilledOf_le fresh carries accepted)

/-- However a run ends, the medium has received its rows as far as they fit. -/
theorem received_run (source : Source) :
    (run source sink).sink.received = sink.fitting (rowsOf source) := by
  have processed := processed_takeLines fresh source
  rw [run_eq_settle]
  generalize Progress.takeLines { buffer := { sink } } (linesOf source) = outcome at processed ⊢
  cases processed with
  | stopped isPrefix same exhausted =>
      exact Csv.RowBuffer.Serves.received_close
        (Or.inr ⟨same, exhausted.mono (List.take_prefix _ _)⟩)
  | through carries accepted =>
      cases source.fault? with
      | some fault => exact Csv.RowBuffer.Serves.received_close (Or.inl carries)
      | none =>
          simp only [settle, Option.map_none, conclude_eq]
          exact carries.serves_flush.received_close

end

end ClassSizes.Extraction
