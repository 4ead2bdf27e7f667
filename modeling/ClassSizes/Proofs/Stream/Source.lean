import ClassSizes.Stream.Source

/-!
# What a source delivers

A reader that tries interrupted reads again depends on two things only: the bytes that are delivered
up to the end or the first fault, and that fault.  `Delivers` lists the ways in which the same
bytes can arrive, and `atOnce` is the plainest of them.
-/

namespace ClassSizes.Source

/-- The bytes that are delivered before the end or the first fault. -/
def delivered : Source → Bytes
  | [] => []
  | .bytes chunk :: rest => chunk.bytes ++ delivered rest
  | .interrupted :: rest => delivered rest
  | .failed _ :: _ => []

/-- The fault that a source reaches, if any; an interruption is not a fault. -/
def fault? : Source → Option Fault
  | [] => none
  | .bytes _ :: rest => fault? rest
  | .interrupted :: rest => fault? rest
  | .failed fault :: _ => some fault

@[simp]
theorem delivered_whole (bytes : Bytes) : (whole bytes).delivered = bytes := by
  cases bytes with
  | nil => rfl
  | cons first rest => exact List.append_nil (first :: rest)

@[simp]
theorem fault?_whole (bytes : Bytes) : (whole bytes).fault? = none := by
  cases bytes <;> rfl

/-- The source that delivers everything in one read, and then comes to its end or to a fault. -/
def atOnce (bytes : Bytes) : Option Fault → Source
  | none => whole bytes
  | some fault => (whole bytes).thenFails fault

@[simp]
theorem delivered_atOnce (bytes : Bytes) (fault? : Option Fault) :
    (atOnce bytes fault?).delivered = bytes := by
  cases fault? with
  | none => exact delivered_whole bytes
  | some fault =>
      cases bytes with
      | nil => rfl
      | cons first rest => exact List.append_nil (first :: rest)

@[simp]
theorem fault?_atOnce (bytes : Bytes) (fault? : Option Fault) :
    (atOnce bytes fault?).fault? = fault? := by
  cases fault? <;> cases bytes <;> rfl

/-- A source delivers bytes, interrupted wherever and as often as may be, and then comes to its end
or to a fault. -/
inductive Delivers : Source → Bytes → Option Fault → Prop
  | ends : Delivers [] [] none
  | fails (fault : Fault) : Delivers [.failed fault] [] (some fault)
  | interrupted {source : Source} {bytes : Bytes} {fault? : Option Fault} :
      Delivers source bytes fault? → Delivers (.interrupted :: source) bytes fault?
  | reads {source : Source} {chunk : Chunk} {bytes : Bytes} {fault? : Option Fault} :
      Delivers source bytes fault? → Delivers (.bytes chunk :: source) (chunk.bytes ++ bytes) fault?

variable {source : Source} {bytes : Bytes} {reached : Option Fault}

theorem Delivers.delivered_eq (delivers : source.Delivers bytes reached) :
    source.delivered = bytes := by
  induction delivers with
  | ends => rfl
  | fails fault => rfl
  | interrupted _ ih => exact ih
  | reads _ ih => rw [delivered, ih]

theorem Delivers.fault?_eq (delivers : source.Delivers bytes reached) :
    source.fault? = reached := by
  induction delivers with
  | ends => rfl
  | fails fault => rfl
  | interrupted _ ih => exact ih
  | reads _ ih => exact ih

end ClassSizes.Source
