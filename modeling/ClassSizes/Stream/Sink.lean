import ClassSizes.Stream.Fault
import ClassSizes.Text.Utf8

/-!
# Sinks

A sink is a medium with room for so many bytes (or without a limit), and a buffer in front of it.
A write that finds too little room is taken in part and then refused, and once the room is used up
every write is refused.  The buffer holds back writes that fit beside what it holds already; a
write of at least its capacity goes past it.  A sink of capacity zero holds nothing back.
-/

namespace ClassSizes

/-- A medium and the buffer in front of it. -/
structure Sink where
  /-- What the medium has received. -/
  received : Bytes := []
  /-- How many more bytes the medium takes; `none` means that there is no limit. -/
  room : Option Nat := none
  /-- What a refused write reports. -/
  refusal : Fault := .noSpace
  /-- What flushing the medium reports, if it fails. -/
  flushFault : Option Fault := none
  /-- How many bytes the buffer can hold. -/
  capacity : Nat := 0
  /-- What the buffer holds. -/
  held : Bytes := []
  deriving Repr

namespace Sink

/-- Hand bytes to the medium, and return those for which it had no room. -/
def deliver (sink : Sink) (bytes : Bytes) : Sink × Bytes :=
  match sink.room with
  | none => ({ sink with received := sink.received ++ bytes }, [])
  | some room =>
    ({ sink with received := sink.received ++ bytes.take room, room := some (room - bytes.length) },
      bytes.drop room)

/-- The fault of a delivery that left some bytes over. -/
def refusalOf (sink : Sink) (left : Bytes) : Option Fault :=
  if left = [] then none else some sink.refusal

/-- Hand over what the buffer holds; what is refused stays in the buffer. -/
def release (sink : Sink) : Sink × Option Fault :=
  let (after, left) := sink.deliver sink.held
  ({ after with held := left }, sink.refusalOf left)

/-- Write bytes without making room for them first. -/
def writeReleased (sink : Sink) (bytes : Bytes) : Sink × Option Fault :=
  if sink.capacity ≤ bytes.length then
    let (after, left) := sink.deliver bytes
    (after, sink.refusalOf left)
  else ({ sink with held := sink.held ++ bytes }, none)

/-- Write bytes: hold them back if they fit, otherwise release the buffer first. -/
def write (sink : Sink) (bytes : Bytes) : Sink × Option Fault :=
  if sink.held.length + bytes.length < sink.capacity then
    ({ sink with held := sink.held ++ bytes }, none)
  else if sink.held.length + bytes.length ≤ sink.capacity then sink.writeReleased bytes
  else
    match sink.release with
    | (released, none) => released.writeReleased bytes
    | (released, some fault) => (released, some fault)

/-- Release the buffer and flush the medium. -/
def flush (sink : Sink) : Sink × Option Fault :=
  match sink.release with
  | (released, none) => (released, released.flushFault)
  | (released, some fault) => (released, some fault)

@[simp] theorem refusalOf_nil (sink : Sink) : sink.refusalOf [] = none := rfl

/-- A delivery loses nothing: its bytes are received or left over, in order. -/
theorem received_deliver (sink : Sink) (bytes : Bytes) :
    (sink.deliver bytes).1.received ++ (sink.deliver bytes).2 = sink.received ++ bytes := by
  unfold deliver
  split <;> simp

end Sink

end ClassSizes
