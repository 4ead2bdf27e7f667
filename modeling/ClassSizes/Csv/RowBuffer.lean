import ClassSizes.Csv.Row
import ClassSizes.Stream.Sink

/-!
# The row buffer

Rows collect in a buffer of 8192 bytes in front of a sink.  An atom that does not fit causes the
buffer to be written out and then starts the next portion; a full buffer is written out only when
another atom comes.  When writing out fails the buffer keeps its bytes, and they are offered once
more when the buffer is closed.
-/

namespace ClassSizes

namespace Csv

/-- Rows on their way to a sink. -/
structure RowBuffer where
  pending : Array UInt8 := #[]
  sink : Sink
  deriving Repr

namespace RowBuffer

/-- How many bytes wait in the buffer at most. -/
def capacity : Nat := 8192

/-- Write out the pending bytes; they stay in the buffer if the sink refuses them. -/
def writeOut (buffer : RowBuffer) : RowBuffer × Option Fault :=
  match buffer.sink.write buffer.pending.toList with
  | (sink, none) => ({ pending := #[], sink }, none)
  | (sink, some fault) => ({ buffer with sink }, some fault)

/-- Add an atom without making room for it. -/
def push (buffer : RowBuffer) (atom : Bytes) : RowBuffer :=
  { buffer with pending := buffer.pending ++ atom }

/-- Add an atom, writing out the buffer first if the atom does not fit. -/
def putAtom (buffer : RowBuffer) (atom : Bytes) : RowBuffer × Option Fault :=
  if buffer.pending.size + atom.length ≤ capacity then (buffer.push atom, none)
  else
    match buffer.writeOut with
    | (emptied, none) => (emptied.push atom, none)
    | (refused, some fault) => (refused, some fault)

/-- Add atoms in order, up to the first one for which the buffer cannot make room. -/
def putAtoms (buffer : RowBuffer) : List Bytes → RowBuffer × Option Fault
  | [] => (buffer, none)
  | atom :: rest =>
    match buffer.putAtom atom with
    | (next, none) => next.putAtoms rest
    | (next, some fault) => (next, some fault)

/-- Add the row of a record. -/
def putRecord (buffer : RowBuffer) (record : Record) : RowBuffer × Option Fault :=
  buffer.putAtoms (recordAtoms record)

/-- Write out the pending bytes and flush the sink. -/
def flush (buffer : RowBuffer) : RowBuffer × Option Fault :=
  match buffer.writeOut with
  | (written, none) =>
    let (sink, fault) := written.sink.flush
    ({ written with sink }, fault)
  | (refused, some fault) => (refused, some fault)

/-- Give up the buffer: whatever is still pending is offered to the sink, and what the sink holds
is released; faults no longer matter. -/
def close (buffer : RowBuffer) : Sink :=
  buffer.flush.1.sink.release.1

end RowBuffer

end Csv

end ClassSizes
