import ClassSizes.Csv.RowBuffer
import ClassSizes.Failure
import ClassSizes.Log.Event
import ClassSizes.Report.ClassLine
import ClassSizes.Report.Lines
import ClassSizes.Report.Stats
import ClassSizes.Stream.Source

/-!
# Extraction

A run reads a report from a source and writes the rows of its records to a sink.  It works piece
by piece: a piece is complete when its line feed has been delivered, or at the end of the input.
Interruptions change nothing.  A fault of the source ends the run, and the piece that was under
way leaves no trace; a fault of the sink ends it in the middle of a row.  However a run ends, the
rows that are still in the buffer are offered to the sink.
-/

namespace ClassSizes

namespace Extraction

/-- What a run has done between two lines. -/
structure Progress where
  stats : Stats := {}
  /-- What the run has logged, newest first. -/
  log : List Log.Event := []
  buffer : Csv.RowBuffer
  deriving Repr

namespace Progress

/-- Count a line that does not carry the marker. -/
def countPlain (progress : Progress) : Progress :=
  { progress with stats := { progress.stats with lines := progress.stats.lines + 1 } }

/-- Count and log a line that carries the marker but does not conform. -/
def countSkipped (progress : Progress) : Progress :=
  { progress with
    stats := { progress.stats with
      lines := progress.stats.lines + 1
      markerLines := progress.stats.markerLines + 1
      skipped := progress.stats.skipped + 1 }
    log := .lineSkipped (progress.stats.lines + 1) :: progress.log }

/-- Count a line whose row has been made. -/
def countRecord (progress : Progress) (buffer : Csv.RowBuffer) : Progress :=
  { progress with
    stats := { progress.stats with
      lines := progress.stats.lines + 1
      markerLines := progress.stats.markerLines + 1
      records := progress.stats.records + 1 }
    buffer }

/-- Process one line. -/
def takeLine (progress : Progress) (line : Text) : Progress × Option Failure :=
  match LineReading.ofLine line with
  | .plain => (progress.countPlain, none)
  | .skipped => (progress.countSkipped, none)
  | .found record =>
    match progress.buffer.putRecord record with
    | (buffer, none) => (progress.countRecord buffer, none)
    | (buffer, some fault) => ({ progress with buffer }, some (.csv (.transfer fault)))

/-- Process lines in order, up to the first whose row cannot be written. -/
def takeLines (progress : Progress) : List Text → Progress × Option Failure
  | [] => (progress, none)
  | line :: rest =>
    match progress.takeLine line with
    | (next, none) => next.takeLines rest
    | (next, some failure) => (next, some failure)

/-- Process a piece. -/
def takePiece (progress : Progress) (piece : Bytes) : Progress × Option Failure :=
  progress.takeLines (Report.linesOfPiece piece)

end Progress

/-- A run between two bytes. -/
structure State where
  progress : Progress
  /-- The bytes of the piece under way, newest first. -/
  partialPiece : Bytes := []
  deriving Repr

namespace State

/-- Read delivered bytes, processing every piece that they complete. -/
def takeBytes (state : State) : Bytes → State × Option Failure
  | [] => (state, none)
  | byte :: rest =>
    if byte = lineFeed then
      match state.progress.takePiece (byte :: state.partialPiece).reverse with
      | (progress, none) => State.takeBytes { progress } rest
      | (progress, some failure) => ({ progress }, some failure)
    else State.takeBytes { state with partialPiece := byte :: state.partialPiece } rest

/-- Process the last piece, unless nothing was read since the last line feed. -/
def takeEnd (state : State) : State × Option Failure :=
  if state.partialPiece = [] then (state, none)
  else
    let (progress, failure) := state.progress.takePiece state.partialPiece.reverse
    ({ progress }, failure)

/-- Read a source up to its end or to the first fault. -/
def takeSource (state : State) : Source → State × Option Failure
  | [] => state.takeEnd
  | .bytes chunk :: rest =>
    match state.takeBytes chunk.bytes with
    | (next, none) => next.takeSource rest
    | (next, some failure) => (next, some failure)
  | .interrupted :: rest => state.takeSource rest
  | .failed fault :: _ => (state, some (.io fault))

end State

/-- What a run leaves behind. -/
structure Result where
  /-- The counters, or why the run failed. -/
  outcome : Except Failure Stats
  /-- The sink after the run. -/
  sink : Sink
  /-- What the run has logged, in order. -/
  log : List Log.Event

/-- Write out the last rows of a run that has read everything. -/
def conclude (progress : Progress) : Except Failure Stats × Csv.RowBuffer :=
  match progress.buffer.flush with
  | (buffer, none) => (.ok progress.stats, buffer)
  | (buffer, some fault) => (.error (.io fault), buffer)

/-- Extract the class sizes of a report as rows. -/
def run (source : Source) (sink : Sink) : Result :=
  match State.takeSource { progress := { buffer := { sink } } } source with
  | (state, some failure) =>
    ⟨.error failure, state.progress.buffer.close, state.progress.log.reverse⟩
  | (state, none) =>
    let (outcome, buffer) := conclude state.progress
    ⟨outcome, buffer.close, state.progress.log.reverse⟩

end Extraction

end ClassSizes
