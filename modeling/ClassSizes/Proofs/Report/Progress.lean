import ClassSizes.Report.Extraction
import ClassSizes.Proofs.Csv.RowBuffer

/-!
# What a run makes of lines

The counters, the log and the rows of a run are functions of the lines that it has processed, each
line counting for itself.  A run stops at the first line whose row cannot be written, and then what
it has counted and logged belongs to the lines in front of that one.
-/

namespace ClassSizes

namespace Report

/-- Whether a line carries the marker but holds no record. -/
def isSkipped (line : Text) : Bool :=
  ClassLine.hasMarker line && (ClassLine.record? line).isNone

/-- The records of lines, in order. -/
def records (lines : List Text) : List Record :=
  lines.filterMap ClassLine.record?

/-- The counters of lines. -/
def stats (lines : List Text) : Stats where
  lines := lines.length
  markerLines := lines.countP ClassLine.hasMarker
  records := lines.countP fun line => (ClassLine.record? line).isSome
  skipped := lines.countP isSkipped

/-- The positions of the lines that are skipped, counted from `position` on. -/
def skippedPositions (position : Nat) (lines : List Text) : List Nat :=
  ((lines.zipIdx position).filter fun (line, _) => isSkipped line).map Prod.snd

/-- The log of lines that are counted from `position` on. -/
def skips (position : Nat) (lines : List Text) : List Log.Event :=
  (skippedPositions position lines).map .lineSkipped

theorem length_records (lines : List Text) : (records lines).length = (stats lines).records := by
  rw [records, stats, List.length_filterMap_eq_countP]

/-- The log of joined lines: the second part is counted on from the first. -/
theorem skips_append (position : Nat) (first second : List Text) :
    skips position (first ++ second) =
      skips position first ++ skips (position + first.length) second := by
  rw [skips, skippedPositions, List.zipIdx_append, List.filter_append, List.map_append,
    List.map_append]
  rfl

/-- The log of the first lines is the beginning of the log. -/
theorem skips_isPrefix {processed lines : List Text} (isPrefix : processed <+: lines)
    (position : Nat) : skips position processed <+: skips position lines := by
  obtain ⟨rest, rfl⟩ := isPrefix
  rw [skips_append]
  exact List.prefix_append _ _

theorem pairwise_skippedPositions (position : Nat) (lines : List Text) :
    (skippedPositions position lines).Pairwise (· < ·) := by
  have counted :
      List.Sublist (skippedPositions position lines) (List.range' position lines.length) := by
    rw [← List.zipIdx_map_snd position lines]
    exact List.filter_sublist.map Prod.snd
  exact List.Pairwise.sublist counted List.pairwise_lt_range'

theorem mem_skippedPositions_iff {position place : Nat} {lines : List Text} :
    place ∈ skippedPositions position lines ↔
      position ≤ place ∧ ∃ line, lines[place - position]? = some line ∧ isSkipped line = true := by
  simp only [skippedPositions, List.mem_map, List.mem_filter, Prod.exists,
    List.mk_mem_zipIdx_iff_le_and_getElem?_sub]
  constructor
  · rintro ⟨line, place, ⟨⟨counted, found⟩, skipped⟩, rfl⟩
    exact ⟨counted, line, found, skipped⟩
  · rintro ⟨counted, line, found, skipped⟩
    exact ⟨line, place, ⟨⟨counted, found⟩, skipped⟩, rfl⟩

end Report

/-- Counters of joined runs add up. -/
instance : Add Stats where
  add first second :=
    { lines := first.lines + second.lines
      markerLines := first.markerLines + second.markerLines
      records := first.records + second.records
      skipped := first.skipped + second.skipped }

theorem Stats.add_def (first second : Stats) :
    first + second =
      { lines := first.lines + second.lines
        markerLines := first.markerLines + second.markerLines
        records := first.records + second.records
        skipped := first.skipped + second.skipped } :=
  rfl

theorem Stats.add_assoc (first second third : Stats) :
    first + second + third = first + (second + third) := by
  simp only [Stats.add_def, Nat.add_assoc]

theorem Report.stats_append (first second : List Text) :
    stats (first ++ second) = stats first + stats second := by
  simp [stats, Stats.add_def]

/-- A line that carries the marker is the line of a record or skipped. -/
theorem Report.markerLines_eq (lines : List Text) :
    (stats lines).markerLines = (stats lines).records + (stats lines).skipped := by
  induction lines with
  | nil => rfl
  | cons line lines ih =>
      simp only [stats] at ih ⊢
      rw [List.countP_cons, List.countP_cons, List.countP_cons, ih]
      cases marked : ClassLine.hasMarker line with
      | false => simp [ClassLine.record?, isSkipped, marked]
      | true => cases found : ClassLine.record? line <;> simp [isSkipped, marked, found] <;> omega

namespace Extraction.Progress

/-- The progress after lines whose rows have gone into a buffer. -/
def after (progress : Progress) (lines : List Text) (buffer : Csv.RowBuffer) : Progress where
  stats := progress.stats + Report.stats lines
  log := (Report.skips (progress.stats.lines + 1) lines).reverse ++ progress.log
  buffer := buffer

theorem after_after (progress : Progress) (first second : List Text)
    (buffer next : Csv.RowBuffer) :
    (progress.after first buffer).after second next = progress.after (first ++ second) next := by
  have position : (progress.stats + Report.stats first).lines + 1 =
      progress.stats.lines + 1 + first.length :=
    Nat.add_right_comm _ _ _
  simp only [after, position, Report.stats_append, Stats.add_assoc, Report.skips_append,
    List.reverse_append, List.append_assoc]

/-- A line without a record leaves the buffer alone. -/
theorem takeLine_of_none (progress : Progress) {line : Text}
    (unmatched : ClassLine.record? line = none) :
    progress.takeLine line = (progress.after [line] progress.buffer, none) := by
  cases marked : ClassLine.hasMarker line with
  | false =>
      have reading : LineReading.ofLine line = .plain := by simp [LineReading.ofLine, marked]
      simp [takeLine, reading, countPlain, after, Report.stats, Report.skips,
        Report.skippedPositions, Report.isSkipped, Stats.add_def, marked, unmatched]
  | true =>
      have searched : ClassLine.search line = none := by
        simpa [ClassLine.record?, marked] using unmatched
      have reading : LineReading.ofLine line = .skipped := by
        simp [LineReading.ofLine, marked, searched]
      simp [takeLine, reading, countSkipped, after, Report.stats, Report.skips,
        Report.skippedPositions, Report.isSkipped, Stats.add_def, marked, unmatched]

/-- A line with a record is counted once its row is in the buffer. -/
theorem takeLine_of_some (progress : Progress) {line : Text} {record : Record}
    (found : ClassLine.record? line = some record) :
    progress.takeLine line =
      match progress.buffer.putRecord record with
      | (buffer, none) => (progress.after [line] buffer, none)
      | (buffer, some fault) => (progress.after [] buffer, some (.csv (.transfer fault))) := by
  have marked : ClassLine.hasMarker line = true := by
    unfold ClassLine.record? at found
    split at found
    · assumption
    · contradiction
  have searched : ClassLine.search line = some record := by
    simpa [ClassLine.record?, marked] using found
  have reading : LineReading.ofLine line = .found record := by
    simp [LineReading.ofLine, marked, searched]
  simp only [takeLine, reading]
  rcases progress.buffer.putRecord record with ⟨buffer, _ | fault⟩
  · simp [countRecord, after, Report.stats, Report.skips, Report.skippedPositions, Report.isSkipped,
      Stats.add_def, marked, found]
  · rfl

theorem takeLines_append (progress : Progress) (first second : List Text) :
    progress.takeLines (first ++ second) =
      match progress.takeLines first with
      | (next, none) => next.takeLines second
      | (next, some failure) => (next, some failure) := by
  induction first generalizing progress with
  | nil => rfl
  | cons line first ih =>
      rw [List.cons_append, takeLines, takeLines]
      rcases progress.takeLine line with ⟨next, _ | failure⟩
      · exact ih next
      · rfl

/-- The rows of lines, put into the buffer of a run. -/
def putRows (progress : Progress) (lines : List Text) : Csv.RowBuffer × Option Fault :=
  progress.buffer.putAtoms ((Report.records lines).flatMap Csv.recordAtoms)

theorem putRows_cons_of_none (progress : Progress) {line : Text}
    (unmatched : ClassLine.record? line = none) (rest : List Text) :
    progress.putRows (line :: rest) = (progress.after [line] progress.buffer).putRows rest := by
  have noRecord : Report.records (line :: rest) = Report.records rest := by
    simp [Report.records, unmatched]
  rw [putRows, noRecord]
  rfl

theorem putRows_cons_of_some (progress : Progress) {line : Text} {record : Record}
    (found : ClassLine.record? line = some record) (rest : List Text) :
    progress.putRows (line :: rest) =
      match progress.buffer.putRecord record with
      | (buffer, none) => (progress.after [line] buffer).putRows rest
      | (buffer, some fault) => (buffer, some fault) := by
  have firstRecord : Report.records (line :: rest) = record :: Report.records rest := by
    simp [Report.records, found]
  rw [putRows, firstRecord, List.flatMap_cons, Csv.RowBuffer.putAtoms_append]
  rfl

/-- A run over lines whose rows all go into the buffer takes every line. -/
theorem takeLines_of_putRows_eq_none {progress : Progress} {lines : List Text}
    {buffer : Csv.RowBuffer} (put : progress.putRows lines = (buffer, none)) :
    progress.takeLines lines = (progress.after lines buffer, none) := by
  induction lines generalizing progress with
  | nil =>
      cases put
      rfl
  | cons line rest ih =>
      rw [takeLines]
      cases found : ClassLine.record? line with
      | none =>
          rw [putRows_cons_of_none progress found] at put
          rw [takeLine_of_none progress found]
          exact (ih put).trans (by rw [after_after, List.singleton_append])
      | some record =>
          rw [putRows_cons_of_some progress found] at put
          rw [takeLine_of_some progress found]
          generalize progress.buffer.putRecord record = outcome at put ⊢
          rcases outcome with ⟨next, _ | fault⟩
          · exact (ih put).trans (by rw [after_after, List.singleton_append])
          · cases put

/-- A run over lines stops when the buffer cannot make room for a row; what it has counted and
logged belongs to the lines in front. -/
theorem takeLines_of_putRows_eq_some {progress : Progress} {lines : List Text}
    {buffer : Csv.RowBuffer} {fault : Fault} (put : progress.putRows lines = (buffer, some fault)) :
    ∃ processed, processed <+: lines ∧
      progress.takeLines lines =
        (progress.after processed buffer, some (.csv (.transfer fault))) := by
  induction lines generalizing progress with
  | nil => cases put
  | cons line rest ih =>
      -- Once the first line is counted, the lines in front of the fault include it.
      have later {next : Csv.RowBuffer}
          (put : (progress.after [line] next).putRows rest = (buffer, some fault)) :
          ∃ processed, processed <+: line :: rest ∧
            (progress.after [line] next).takeLines rest =
              (progress.after processed buffer, some (.csv (.transfer fault))) := by
        obtain ⟨processed, isPrefix, stopped⟩ := ih put
        rw [after_after, List.singleton_append] at stopped
        exact ⟨line :: processed, List.cons_prefix_cons.mpr ⟨rfl, isPrefix⟩, stopped⟩
      rw [takeLines]
      cases found : ClassLine.record? line with
      | none =>
          rw [putRows_cons_of_none progress found] at put
          rw [takeLine_of_none progress found]
          exact later put
      | some record =>
          rw [putRows_cons_of_some progress found] at put
          rw [takeLine_of_some progress found]
          generalize progress.buffer.putRecord record = outcome at put ⊢
          rcases outcome with ⟨next, _ | refusal⟩
          · exact later put
          · cases put
            exact ⟨[], List.nil_prefix, rfl⟩

end Extraction.Progress

end ClassSizes
