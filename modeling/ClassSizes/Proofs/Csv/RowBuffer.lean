import ClassSizes.Csv.RowBuffer
import ClassSizes.Proofs.Stream.Sink

/-!
# Rows on their way to a sink

While rows are put into a buffer, what the sink has accepted and what is still pending are, joined,
the atoms so far: this is `Carries`.  The buffer fails only when it has to make room, and then the
medium is full; how many bytes leave the buffer to make room depends on the lengths of the atoms
alone and is counted by `spilled`.

However a run ends, closing the buffer leaves the medium with exactly the bytes that fit
(`received_close`): an offer that is repeated finds a full medium and changes nothing.
-/

namespace ClassSizes.Csv.RowBuffer

/-- The buffer and its sink, which began as `origin`, hold a stream between them. -/
structure Carries (origin : Sink) (buffer : RowBuffer) (stream : Bytes) : Prop where
  sameMedium : origin.SameMedium buffer.sink
  content_eq : buffer.sink.accepted ++ buffer.pending.toList = stream
  pending_le : buffer.pending.size ≤ capacity
  held_le : buffer.sink.held.length ≤ buffer.sink.capacity

/-- How many bytes leave a buffer with `waiting` pending bytes to make room for atoms. -/
def spilled : Nat → List Bytes → Nat
  | _, [] => 0
  | waiting, atom :: rest =>
      if waiting + atom.length ≤ capacity then spilled (waiting + atom.length) rest
      else waiting + spilled atom.length rest

/-! ## How much leaves the buffer early -/

theorem spilled_eq_zero {waiting : Nat} {atoms : List Bytes}
    (fits : waiting + atoms.flatten.length ≤ capacity) : spilled waiting atoms = 0 := by
  induction atoms generalizing waiting with
  | nil => rfl
  | cons atom rest ih =>
      rw [List.flatten_cons, List.length_append] at fits
      rw [spilled, if_pos (by omega)]
      exact ih (by omega)

theorem spilled_le (waiting : Nat) (atoms : List Bytes) :
    spilled waiting atoms ≤ waiting + atoms.flatten.length := by
  induction atoms generalizing waiting with
  | nil => exact Nat.zero_le _
  | cons atom rest ih =>
      rw [spilled, List.flatten_cons, List.length_append]
      split
      · have := ih (waiting + atom.length)
        omega
      · have := ih atom.length
        omega

/-- At most a full buffer stays behind. -/
theorem le_spilled_add_capacity {waiting : Nat} {atoms : List Bytes} (small : waiting ≤ capacity)
    (short : ∀ atom ∈ atoms, atom.length ≤ capacity) :
    waiting + atoms.flatten.length ≤ spilled waiting atoms + capacity := by
  induction atoms generalizing waiting with
  | nil => simpa [spilled] using small
  | cons atom rest ih =>
      have shortRest : ∀ other ∈ rest, other.length ≤ capacity :=
        fun other member => short other (List.mem_cons_of_mem _ member)
      rw [spilled, List.flatten_cons, List.length_append]
      split
      · next fits =>
        have := ih fits shortRest
        omega
      · have := ih (short atom List.mem_cons_self) shortRest
        omega

/-! ## Putting atoms into the buffer -/

variable {origin : Sink} {buffer : RowBuffer} {stream : Bytes}

/-- A fresh buffer carries what its sink has accepted. -/
theorem carries_fresh (sink : Sink) (small : sink.held.length ≤ sink.capacity) :
    Carries sink { sink } sink.accepted where
  sameMedium := .refl sink
  content_eq := by simp
  pending_le := Nat.zero_le _
  held_le := small

@[simp]
theorem toList_pending_push (buffer : RowBuffer) (atom : Bytes) :
    (buffer.push atom).pending.toList = buffer.pending.toList ++ atom := by
  simp [RowBuffer.push]

@[simp]
theorem size_pending_push (buffer : RowBuffer) (atom : Bytes) :
    (buffer.push atom).pending.size = buffer.pending.size + atom.length := by
  rw [← Array.length_toList, toList_pending_push, List.length_append, Array.length_toList]

@[simp]
theorem sink_push (buffer : RowBuffer) (atom : Bytes) : (buffer.push atom).sink = buffer.sink :=
  rfl

/-- An atom for which there is room is pending. -/
theorem Carries.push (carries : Carries origin buffer stream) {atom : Bytes}
    (fits : buffer.pending.size + atom.length ≤ capacity) :
    Carries origin (buffer.push atom) (stream ++ atom) where
  sameMedium := carries.sameMedium
  content_eq := by
    rw [sink_push, toList_pending_push, ← List.append_assoc, carries.content_eq]
  pending_le := by rwa [size_pending_push]
  held_le := carries.held_le

/-- Writing out passes everything that is pending on to the sink, or exhausts the medium. -/
theorem Carries.writeOut (carries : Carries origin buffer stream) :
    match buffer.writeOut with
    | (after, none) =>
        Carries origin after stream ∧ after.pending = #[] ∧ after.sink.accepted = stream
    | (after, some fault) =>
        origin.SameMedium after.sink ∧ after.sink.Exhausted stream ∧ fault = origin.refusal := by
  have took := carries.sameMedium.took (buffer.sink.took_write buffer.pending.toList)
  have held := Sink.held_write_le carries.held_le buffer.pending.toList
  rw [carries.content_eq] at took
  rw [carries.sameMedium.capacity_eq] at held
  unfold RowBuffer.writeOut
  cases result : buffer.sink.write buffer.pending.toList with
  | mk sink fault =>
      rw [result] at took held
      cases fault with
      | none =>
          obtain ⟨same, accepted⟩ := took
          refine ⟨⟨same, by simpa using accepted, Nat.zero_le _, ?_⟩, rfl, accepted⟩
          rw [same.capacity_eq]
          exact held
      | some fault => exact took

theorem putAtoms_append (buffer : RowBuffer) (first second : List Bytes) :
    buffer.putAtoms (first ++ second) =
      match buffer.putAtoms first with
      | (next, none) => next.putAtoms second
      | (next, some fault) => (next, some fault) := by
  induction first generalizing buffer with
  | nil => rfl
  | cons atom first ih =>
      rw [List.cons_append, putAtoms, putAtoms]
      rcases buffer.putAtom atom with ⟨next, _ | fault⟩
      · exact ih next
      · rfl

/-- The outcome of putting atoms into a buffer: a fault comes only from making room. -/
theorem Carries.putAtoms (carries : Carries origin buffer stream) {atoms : List Bytes}
    (short : ∀ atom ∈ atoms, atom.length ≤ capacity) :
    match buffer.putAtoms atoms with
    | (after, none) =>
        Carries origin after (stream ++ atoms.flatten) ∧
          after.sink.accepted.length =
            buffer.sink.accepted.length + spilled buffer.pending.size atoms
    | (after, some fault) =>
        origin.SameMedium after.sink ∧
          after.sink.Exhausted ((stream ++ atoms.flatten).take
            (buffer.sink.accepted.length + spilled buffer.pending.size atoms)) ∧
          fault = origin.refusal := by
  induction atoms generalizing buffer stream with
  | nil => exact ⟨by simpa using carries, rfl⟩
  | cons atom rest ih =>
      have shortAtom : atom.length ≤ capacity := short atom List.mem_cons_self
      have shortRest : ∀ other ∈ rest, other.length ≤ capacity :=
        fun other member => short other (List.mem_cons_of_mem _ member)
      rw [RowBuffer.putAtoms, putAtom, spilled, List.flatten_cons, ← List.append_assoc]
      by_cases fits : buffer.pending.size + atom.length ≤ capacity
      · rw [if_pos fits, if_pos fits]
        simpa only [size_pending_push, sink_push] using ih (carries.push fits) shortRest
      · rw [if_neg fits, if_neg fits]
        have written := carries.writeOut
        have waiting : buffer.sink.accepted.length + buffer.pending.size = stream.length := by
          simp [← carries.content_eq]
        cases result : buffer.writeOut with
        | mk after fault =>
            rw [result] at written
            cases fault with
            | none =>
                obtain ⟨carriesAfter, empty, accepted⟩ := written
                have room : after.pending.size + atom.length = atom.length := by simp [empty]
                have later := ih (carriesAfter.push (by rwa [room])) shortRest
                rw [size_pending_push, sink_push, room, accepted, ← waiting, Nat.add_assoc] at later
                exact later
            | some fault =>
                obtain ⟨same, exhausted, refusal⟩ := written
                refine ⟨same, exhausted.mono ?_, refusal⟩
                rw [← Nat.add_assoc, waiting, List.append_assoc, List.take_length_add_append]
                exact List.prefix_append _ _

/-! ## Atoms of rows -/

theorem length_le_two_of_mem_fieldAtoms {field atom : Bytes} (member : atom ∈ fieldAtoms field) :
    atom.length ≤ 2 := by
  unfold fieldAtoms at member
  split at member
  · simp only [List.mem_append, List.mem_cons, List.mem_map, List.not_mem_nil, or_false] at member
    rcases member with (rfl | ⟨byte, _, rfl⟩) | rfl
    · decide
    · unfold quotedAtom
      split <;> simp
    · decide
  · obtain ⟨byte, _, rfl⟩ := List.mem_map.mp member
    simp

/-- The atoms of rows are short enough for an empty buffer. -/
theorem length_le_capacity_of_mem_atoms (records : List Record) :
    ∀ atom ∈ records.flatMap recordAtoms, atom.length ≤ capacity := by
  intro atom member
  obtain ⟨record, _, member⟩ := List.mem_flatMap.mp member
  have short : atom.length ≤ 2 := by
    simp only [recordAtoms, rowAtoms, List.mem_append, List.mem_cons, List.not_mem_nil,
      or_false] at member
    rcases member with (name | rfl | size) | rfl
    · exact length_le_two_of_mem_fieldAtoms name
    · decide
    · exact length_le_two_of_mem_fieldAtoms size
    · decide
  exact Nat.le_trans short (by decide)

theorem flatten_flatMap_recordAtoms (records : List Record) :
    (records.flatMap recordAtoms).flatten = rows records := by
  induction records with
  | nil => rfl
  | cons record rest ih => rw [List.flatMap_cons, List.flatten_append, ih, rows_cons, row]

/-! ## Flushing and closing -/

/-- Flushing a buffer hands the whole stream to the medium, unless the medium is too small for it;
the flush of the medium itself may still fail. -/
theorem Carries.flush (carries : Carries origin buffer stream) :
    origin.SameMedium buffer.flush.1.sink ∧
      (buffer.flush.1.sink.Exhausted stream ∧ buffer.flush.2 = some origin.refusal ∨
        (buffer.flush.1.sink.received = stream ∧ buffer.flush.1.sink.held = []) ∧
          Carries origin buffer.flush.1 stream ∧ buffer.flush.2 = origin.flushFault) := by
  have written := carries.writeOut
  unfold RowBuffer.flush
  cases result : buffer.writeOut with
  | mk after fault =>
      rw [result] at written
      cases fault with
      | some fault =>
          obtain ⟨same, exhausted, refusal⟩ := written
          exact ⟨same, Or.inl ⟨exhausted, congrArg some refusal⟩⟩
      | none =>
          obtain ⟨carriesAfter, empty, accepted⟩ := written
          obtain ⟨sameFlush, flushed⟩ := after.sink.settled_flush
          have same := carriesAfter.sameMedium.trans sameFlush
          rw [accepted] at flushed
          refine ⟨same, ?_⟩
          rcases flushed with ⟨exhausted, refusal⟩ | ⟨⟨received, held⟩, fault⟩
          · exact Or.inl ⟨exhausted, refusal.trans
              (congrArg some carriesAfter.sameMedium.refusal_eq)⟩
          · refine Or.inr ⟨⟨received, held⟩, ⟨same, ?_, ?_, ?_⟩, fault.trans
              carriesAfter.sameMedium.flushFault_eq⟩
            · simp [Sink.accepted, received, held, empty]
            · simp [empty]
            · simp [held]

/-- A buffer that carries a stream, or whose medium a part of the stream has filled. -/
def Serves (origin : Sink) (buffer : RowBuffer) (stream : Bytes) : Prop :=
  Carries origin buffer stream ∨
    origin.SameMedium buffer.sink ∧ buffer.sink.Exhausted stream

/-- A buffer can be flushed again before it is closed. -/
theorem Carries.serves_flush (carries : Carries origin buffer stream) :
    Serves origin buffer.flush.1 stream := by
  obtain ⟨same, ⟨exhausted, _⟩ | ⟨_, carriesAfter, _⟩⟩ := carries.flush
  · exact Or.inr ⟨same, exhausted⟩
  · exact Or.inl carriesAfter

theorem sameMedium_exhausted_flush (same : origin.SameMedium buffer.sink)
    (exhausted : buffer.sink.Exhausted stream) :
    origin.SameMedium buffer.flush.1.sink ∧ buffer.flush.1.sink.Exhausted stream := by
  have took := (buffer.sink.took_write buffer.pending.toList).sameMedium
  have written := exhausted.write buffer.pending.toList
  unfold RowBuffer.flush RowBuffer.writeOut
  cases result : buffer.sink.write buffer.pending.toList with
  | mk after fault =>
      rw [result] at took written
      cases fault with
      | none => exact ⟨(same.trans took).trans after.settled_flush.1, written.flush⟩
      | some fault => exact ⟨same.trans took, written⟩

/-- Whatever a buffer still offers when it is closed, the medium ends with the bytes that fit. -/
theorem Serves.received_close (serves : Serves origin buffer stream) :
    buffer.close.received = origin.fitting stream := by
  have settled : origin.SameMedium buffer.flush.1.sink ∧
      buffer.flush.1.sink.Settled stream := by
    rcases serves with carries | ⟨same, exhausted⟩
    · obtain ⟨same, ⟨exhausted, _⟩ | ⟨settled, _⟩⟩ := carries.flush
      · exact ⟨same, Or.inl exhausted⟩
      · exact ⟨same, Or.inr settled⟩
    · obtain ⟨same, exhausted⟩ := sameMedium_exhausted_flush same exhausted
      exact ⟨same, Or.inl exhausted⟩
  have released := (buffer.flush.1.sink.took_release).sameMedium
  rw [close, settled.2.release.received_eq, released.fitting_eq, settled.1.fitting_eq]

end ClassSizes.Csv.RowBuffer
