import ClassSizes.Stream.Sink

/-!
# What a sink takes

A sink takes the bytes that are written to it in order, up to its bound; what it has taken has been
received by the medium or is still held.  A fault means that the medium is full: it has received
exactly the beginning of the stream that fits, and will never receive anything more.

`Took` says this once.  Every operation of a sink satisfies it, for every capacity of the buffer.
-/

namespace ClassSizes.Sink

/-- The bytes that have been written to a sink without a fault. -/
def accepted (sink : Sink) : Bytes :=
  sink.received ++ sink.held

/-- How many bytes the medium takes in all, those that it has received included. -/
def bound? (sink : Sink) : Option Nat :=
  sink.room.map (sink.received.length + ·)

/-- The beginning of a stream that fits. -/
def fitting (sink : Sink) (stream : Bytes) : Bytes :=
  match sink.bound? with
  | none => stream
  | some bound => stream.take bound

/-- Two states of one sink. -/
structure SameMedium (before after : Sink) : Prop where
  bound?_eq : after.bound? = before.bound?
  refusal_eq : after.refusal = before.refusal
  flushFault_eq : after.flushFault = before.flushFault
  capacity_eq : after.capacity = before.capacity

/-- A full medium that has received the beginning of a stream, but not all of it. -/
structure Exhausted (sink : Sink) (stream : Bytes) : Prop where
  room_eq : sink.room = some 0
  received_begins : sink.received <+: stream
  received_short : sink.received.length < stream.length

/-- The outcome of writing to a sink, which thereby has been offered `stream` in all. -/
def Took (sink : Sink) (stream : Bytes) : Sink × Option Fault → Prop
  | (after, none) => sink.SameMedium after ∧ after.accepted = stream
  | (after, some fault) => sink.SameMedium after ∧ after.Exhausted stream ∧ fault = sink.refusal

theorem SameMedium.refl (sink : Sink) : SameMedium sink sink :=
  ⟨rfl, rfl, rfl, rfl⟩

theorem SameMedium.trans {first second third : Sink} (earlier : SameMedium first second)
    (later : SameMedium second third) : SameMedium first third where
  bound?_eq := later.bound?_eq.trans earlier.bound?_eq
  refusal_eq := later.refusal_eq.trans earlier.refusal_eq
  flushFault_eq := later.flushFault_eq.trans earlier.flushFault_eq
  capacity_eq := later.capacity_eq.trans earlier.capacity_eq

theorem SameMedium.took {before sink : Sink} (same : SameMedium before sink) {stream : Bytes}
    {outcome : Sink × Option Fault} (took : sink.Took stream outcome) :
    before.Took stream outcome := by
  rcases outcome with ⟨after, fault⟩
  cases fault with
  | none => exact ⟨same.trans took.1, took.2⟩
  | some fault => exact ⟨same.trans took.1, took.2.1, took.2.2.trans same.refusal_eq⟩

theorem Took.sameMedium {sink : Sink} {stream : Bytes} {outcome : Sink × Option Fault}
    (took : sink.Took stream outcome) : sink.SameMedium outcome.1 := by
  rcases outcome with ⟨after, fault⟩
  cases fault with
  | none => exact took.1
  | some fault => exact took.1

theorem SameMedium.fitting_eq {before after : Sink} (same : SameMedium before after)
    (stream : Bytes) : after.fitting stream = before.fitting stream := by
  rw [fitting, same.bound?_eq, fitting]

/-- More bytes do not fit into a full medium either. -/
theorem Exhausted.mono {sink : Sink} {stream longer : Bytes} (exhausted : sink.Exhausted stream)
    (isPrefix : stream <+: longer) : sink.Exhausted longer where
  room_eq := exhausted.room_eq
  received_begins := exhausted.received_begins.trans isPrefix
  received_short := Nat.lt_of_lt_of_le exhausted.received_short isPrefix.length_le

theorem Exhausted.bound?_eq {sink : Sink} {stream : Bytes} (exhausted : sink.Exhausted stream) :
    sink.bound? = some sink.received.length := by
  simp [bound?, exhausted.room_eq]

/-- A full medium has received what fits. -/
theorem Exhausted.received_eq {sink : Sink} {stream : Bytes} (exhausted : sink.Exhausted stream) :
    sink.received = sink.fitting stream := by
  rw [fitting, exhausted.bound?_eq]
  exact List.prefix_iff_eq_take.mp exhausted.received_begins

/-- What has been received fits. -/
theorem fitting_received (sink : Sink) : sink.fitting sink.received = sink.received := by
  unfold fitting bound?
  cases sink.room with
  | none => rfl
  | some room => exact List.take_of_length_le (Nat.le_add_right _ _)

/-! ## Handing bytes to the medium -/

theorem sameMedium_deliver (sink : Sink) (bytes : Bytes) :
    sink.SameMedium (sink.deliver bytes).1 := by
  unfold deliver
  cases room : sink.room with
  | none => exact ⟨by simp [bound?, room], rfl, rfl, rfl⟩
  | some room =>
      refine ⟨?_, rfl, rfl, rfl⟩
      simp only [bound?, room, Option.map_some, List.length_append, List.length_take]
      congr 1
      omega

@[simp]
theorem held_deliver (sink : Sink) (bytes : Bytes) : (sink.deliver bytes).1.held = sink.held := by
  unfold deliver
  cases sink.room <;> rfl

theorem length_left_le (sink : Sink) (bytes : Bytes) :
    (sink.deliver bytes).2.length ≤ bytes.length := by
  unfold deliver
  cases sink.room with
  | none => exact Nat.zero_le _
  | some room => exact (List.drop_suffix room bytes).length_le

/-- Only a full medium leaves bytes over. -/
theorem room_deliver {sink : Sink} {bytes : Bytes} (left : (sink.deliver bytes).2 ≠ []) :
    (sink.deliver bytes).1.room = some 0 := by
  unfold deliver at left ⊢
  cases room : sink.room with
  | none => simp [room] at left
  | some room =>
      simp only [room, ne_eq, List.drop_eq_nil_iff, Nat.not_le] at left
      exact congrArg some (Nat.sub_eq_zero_of_le (Nat.le_of_lt left))

/-- A delivery that leaves bytes over has exhausted the medium. -/
theorem exhausted_deliver {sink : Sink} {bytes : Bytes} (left : (sink.deliver bytes).2 ≠ []) :
    (sink.deliver bytes).1.Exhausted (sink.received ++ bytes) where
  room_eq := room_deliver left
  received_begins := ⟨_, sink.received_deliver bytes⟩
  received_short := by
    rw [← sink.received_deliver bytes, List.length_append]
    exact Nat.lt_add_of_pos_right (List.length_pos_iff.mpr left)

/-- The spec of a delivery, whatever is made of the bytes that are left over. -/
theorem took_deliver (sink : Sink) (bytes held : Bytes)
    (nothingLeft : (sink.deliver bytes).2 = [] → held = []) :
    sink.Took (sink.received ++ bytes)
      ({ (sink.deliver bytes).1 with held }, sink.refusalOf (sink.deliver bytes).2) := by
  have same := sink.sameMedium_deliver bytes
  by_cases left : (sink.deliver bytes).2 = []
  · have received := sink.received_deliver bytes
    rw [left, List.append_nil] at received
    rw [left, refusalOf_nil, nothingLeft left]
    exact ⟨⟨same.1, same.2, same.3, same.4⟩, by simpa [accepted] using received⟩
  · rw [refusalOf, if_neg left]
    have exhausted := exhausted_deliver left
    exact ⟨⟨same.1, same.2, same.3, same.4⟩, ⟨exhausted.1, exhausted.2, exhausted.3⟩, rfl⟩

/-! ## The operations of a sink -/

theorem took_release (sink : Sink) : sink.Took sink.accepted sink.release :=
  sink.took_deliver sink.held _ id

/-- A buffer that has been released is empty, unless there was a fault. -/
theorem held_release {sink after : Sink} (released : sink.release = (after, none)) :
    after.held = [] := by
  have left : sink.refusalOf (sink.deliver sink.held).2 = none := congrArg Prod.snd released
  have held : (sink.deliver sink.held).2 = after.held :=
    congrArg (fun outcome : Sink × Option Fault => outcome.1.held) released
  unfold refusalOf at left
  split at left
  · next empty => exact held.symm.trans empty
  · contradiction

/-- Bytes that are too long for the buffer may go past it when it is empty. -/
theorem took_writeReleased {sink : Sink} {bytes : Bytes}
    (passes : sink.capacity ≤ bytes.length → sink.held = []) :
    sink.Took (sink.accepted ++ bytes) (sink.writeReleased bytes) := by
  unfold writeReleased
  by_cases long : sink.capacity ≤ bytes.length
  · rw [if_pos long]
    have took := sink.took_deliver bytes [] fun _ => rfl
    have unheld : { (sink.deliver bytes).1 with held := [] } = (sink.deliver bytes).1 := by
      rw [← passes long, ← sink.held_deliver bytes]
    rw [unheld] at took
    rw [accepted, passes long, List.append_nil]
    exact took
  · rw [if_neg long]
    exact ⟨⟨rfl, rfl, rfl, rfl⟩, by simp [accepted]⟩

/-- A write takes all of its bytes or exhausts the medium. -/
theorem took_write (sink : Sink) (bytes : Bytes) :
    sink.Took (sink.accepted ++ bytes) (sink.write bytes) := by
  unfold write
  split
  · exact ⟨⟨rfl, rfl, rfl, rfl⟩, by simp [accepted]⟩
  split
  · next within =>
    apply took_writeReleased
    intro long
    exact List.length_eq_zero_iff.mp (by omega)
  · have released := sink.took_release
    cases result : sink.release with
    | mk after fault =>
        rw [result] at released
        cases fault with
        | none =>
            obtain ⟨same, acceptedEq⟩ := released
            rw [← acceptedEq]
            exact same.took (took_writeReleased fun _ => held_release result)
        | some fault =>
            obtain ⟨same, exhausted, refusal⟩ := released
            exact ⟨same, exhausted.mono (List.prefix_append _ _), refusal⟩

theorem held_writeReleased_le {sink : Sink} {bytes : Bytes}
    (small : sink.held.length ≤ sink.capacity)
    (room : sink.capacity ≤ bytes.length ∨ sink.held.length + bytes.length ≤ sink.capacity) :
    (sink.writeReleased bytes).1.held.length ≤ sink.capacity := by
  unfold writeReleased
  split
  · rwa [held_deliver]
  · rw [List.length_append]
    omega

/-- The buffer never holds more than its capacity. -/
theorem held_write_le {sink : Sink} (small : sink.held.length ≤ sink.capacity) (bytes : Bytes) :
    (sink.write bytes).1.held.length ≤ sink.capacity := by
  unfold write
  split
  · rw [List.length_append]
    omega
  split
  · exact held_writeReleased_le small (by omega)
  · have same := (sink.took_release).sameMedium
    split
    · next after result =>
      rw [result] at same
      rw [← same.capacity_eq]
      refine held_writeReleased_le ?_ ?_ <;> rw [held_release result]
      · exact Nat.zero_le _
      · rw [List.length_nil]
        omega
    · next after fault result =>
      have left : after.held = (sink.deliver sink.held).2 :=
        congrArg (fun outcome : Sink × Option Fault => outcome.1.held) result.symm
      rw [left]
      exact Nat.le_trans (sink.length_left_le sink.held) small

/-! ## A full medium stays as it is -/

namespace Exhausted

variable {sink : Sink} {stream : Bytes}

theorem deliver (exhausted : sink.Exhausted stream) (bytes : Bytes) :
    (sink.deliver bytes).1.Exhausted stream := by
  have full := exhausted.room_eq
  simp only [Sink.deliver, full, List.take_zero, List.append_nil]
  exact ⟨by simp, exhausted.received_begins, exhausted.received_short⟩

theorem release (exhausted : sink.Exhausted stream) : sink.release.1.Exhausted stream :=
  have delivered := exhausted.deliver sink.held
  ⟨delivered.room_eq, delivered.received_begins, delivered.received_short⟩

theorem writeReleased (exhausted : sink.Exhausted stream) (bytes : Bytes) :
    (sink.writeReleased bytes).1.Exhausted stream := by
  unfold Sink.writeReleased
  split
  · exact exhausted.deliver bytes
  · exact ⟨exhausted.room_eq, exhausted.received_begins, exhausted.received_short⟩

theorem write (exhausted : sink.Exhausted stream) (bytes : Bytes) :
    (sink.write bytes).1.Exhausted stream := by
  unfold Sink.write
  split
  · exact ⟨exhausted.room_eq, exhausted.received_begins, exhausted.received_short⟩
  split
  · exact exhausted.writeReleased bytes
  · have released := exhausted.release
    split
    · next result => exact Exhausted.writeReleased (by rwa [result] at released) bytes
    · next result => rwa [result] at released

theorem flush (exhausted : sink.Exhausted stream) : sink.flush.1.Exhausted stream := by
  have released := exhausted.release
  unfold Sink.flush
  split <;> next result => rwa [result] at released

end Exhausted

/-! ## Settling a stream -/

/-- The medium has all that it will ever receive of a stream. -/
def Settled (sink : Sink) (stream : Bytes) : Prop :=
  sink.Exhausted stream ∨ sink.received = stream ∧ sink.held = []

theorem Settled.received_eq {sink : Sink} {stream : Bytes} (settled : sink.Settled stream) :
    sink.received = sink.fitting stream := by
  rcases settled with exhausted | ⟨rfl, _⟩
  · exact exhausted.received_eq
  · exact sink.fitting_received.symm

theorem settled_release (sink : Sink) : sink.release.1.Settled sink.accepted := by
  have released := sink.took_release
  cases result : sink.release with
  | mk after fault =>
      rw [result] at released
      cases fault with
      | none =>
          have held := held_release result
          refine Or.inr ⟨?_, held⟩
          rw [← released.2, accepted, held, List.append_nil]
      | some fault => exact Or.inl released.2.1

/-- A settled stream stays settled when nothing is held that could be released. -/
theorem Settled.release {sink : Sink} {stream : Bytes} (settled : sink.Settled stream) :
    sink.release.1.Settled stream := by
  rcases settled with exhausted | ⟨rfl, held⟩
  · exact Or.inl exhausted.release
  · have released := sink.settled_release
    rwa [accepted, held, List.append_nil] at released

/-- Flushing settles what has been accepted, and fails when the medium is too small for that or
when its own flush fails. -/
theorem settled_flush (sink : Sink) :
    sink.SameMedium sink.flush.1 ∧
      (sink.flush.1.Exhausted sink.accepted ∧ sink.flush.2 = some sink.refusal ∨
        (sink.flush.1.received = sink.accepted ∧ sink.flush.1.held = []) ∧
          sink.flush.2 = sink.flushFault) := by
  have released := sink.took_release
  unfold flush
  cases result : sink.release with
  | mk after fault =>
      rw [result] at released
      cases fault with
      | none =>
          have held := held_release result
          refine ⟨released.1, Or.inr ⟨⟨?_, held⟩, released.1.flushFault_eq⟩⟩
          rw [← released.2, accepted, held, List.append_nil]
      | some fault =>
          exact ⟨released.1, Or.inl ⟨released.2.1, congrArg some released.2.2⟩⟩

end ClassSizes.Sink
