import ClassSizes.Proofs.Csv.RoundTrip
import ClassSizes.Proofs.Csv.RowBuffer

/-!
# Records as rows and back

Records are written by putting their rows into a buffer one after the other, flushing it, and
giving it up.  A medium without a limit receives exactly the rows, wherever the buffer happens to
be cut.  Rows say everything about the records that they were written from: this is read off the
scanner, which knows nothing of byte order marks, and so it holds even where reading drops one.
-/

namespace ClassSizes.Csv

namespace RowBuffer

/-- Add the rows of records in order, up to the first for which the buffer cannot make room. -/
def putRecords (buffer : RowBuffer) : List Record → RowBuffer × Option Fault
  | [] => (buffer, none)
  | record :: rest =>
      match buffer.putRecord record with
      | (next, none) => next.putRecords rest
      | (next, some fault) => (next, some fault)

/-- The buffer sees only the atoms of records, not where one record ends and the next begins. -/
theorem putRecords_eq_putAtoms (buffer : RowBuffer) (records : List Record) :
    buffer.putRecords records = buffer.putAtoms (records.flatMap recordAtoms) := by
  induction records generalizing buffer with
  | nil => rfl
  | cons record rest ih =>
      rw [List.flatMap_cons, putAtoms_append, putRecords, putRecord]
      rcases buffer.putAtoms (recordAtoms record) with ⟨next, _ | fault⟩
      · exact ih next
      · rfl

end RowBuffer

/-- Write the rows of records to a sink, and return the fault that ended the writing, if any. -/
def writeRecords (records : List Record) (sink : Sink) : Sink × Option Fault :=
  match RowBuffer.putRecords { sink } records with
  | (buffer, none) => (buffer.flush.1.close, buffer.flush.2)
  | (buffer, some fault) => (buffer.close, some fault)

/-- A medium without a limit is never exhausted. -/
theorem not_exhausted_of_unlimited {origin sink : Sink} (unlimited : origin.room = none)
    (same : origin.SameMedium sink) (stream : Bytes) : ¬sink.Exhausted stream := by
  intro exhausted
  have bound := exhausted.bound?_eq
  rw [same.bound?_eq, Sink.bound?, unlimited] at bound
  contradiction

/-- A medium without a limit receives the rows of all records. -/
theorem writeRecords_unlimited (capacity : Nat) (records : List Record) :
    (writeRecords records { capacity }).1.received = rows records ∧
      (writeRecords records { capacity }).2 = none := by
  have fresh : RowBuffer.Carries { capacity } { sink := { capacity } } [] :=
    RowBuffer.carries_fresh { capacity } (Nat.zero_le _)
  have put := fresh.putAtoms (RowBuffer.length_le_capacity_of_mem_atoms records)
  rw [RowBuffer.flatten_flatMap_recordAtoms, List.nil_append,
    ← RowBuffer.putRecords_eq_putAtoms] at put
  unfold writeRecords
  rcases result : RowBuffer.putRecords { sink := { capacity } } records with ⟨buffer, _ | fault⟩
  · rw [result] at put
    obtain ⟨carries, _⟩ := put
    refine ⟨carries.serves_flush.received_close, ?_⟩
    obtain ⟨same, ⟨exhausted, _⟩ | ⟨_, _, flushed⟩⟩ := carries.flush
    · exact absurd exhausted (not_exhausted_of_unlimited rfl same _)
    · exact flushed
  · rw [result] at put
    obtain ⟨same, exhausted, _⟩ := put
    exact absurd exhausted (not_exhausted_of_unlimited rfl same _)

/-- No two lists of records have the same rows. -/
theorem rows_injective : Function.Injective rows := by
  intro first second same
  have begins : Scanner.Rests {} := ⟨rfl, rfl, rfl⟩
  have read := begins.rowsOf_rows first
  rw [same, begins.rowsOf_rows second] at read
  exact (Except.ok.inj read).symm

/-- Whatever characters the fields of records hold, what is written for them is read as the table of
these records, except that a byte order mark at the front of the first name is lost if the name
needs no quotes.  No other records are written the same way, even then. -/
theorem read_writeRecords (capacity : Nat) (records : List Record) :
    let written := writeRecords records { capacity }
    written.2 = none ∧
      ((∀ first ∈ records.head?, losesMark first.name = false) →
        Table.read (.whole written.1.received) = .ok (Table.ofRecords records)) ∧
      (∀ name size rest, records = ⟨'\uFEFF' :: name, size⟩ :: rest →
        name.any isSpecial = false →
        Table.read (.whole written.1.received) = .ok (Table.ofRecords (⟨name, size⟩ :: rest))) ∧
      ∀ others, (writeRecords others { capacity }).1.received = written.1.received →
        others = records := by
  intro written
  obtain ⟨received, fault⟩ :
      written.1.received = rows records ∧ written.2 = none :=
    writeRecords_unlimited capacity records
  rw [received, read_rows]
  refine ⟨fault, ?_, ?_, ?_⟩
  · intro keepsMark
    rw [withoutMark_eq_self_iff.mpr keepsMark]
  · rintro name size rest rfl bare
    have loses : losesMark ('\uFEFF' :: name) = true := losesMark_iff.mpr ⟨name, rfl, bare⟩
    simp only [withoutMark, loses, if_true, List.tail_cons]
  · intro others same
    rw [(writeRecords_unlimited capacity others).1] at same
    exact rows_injective same

/-- A name that is nothing but a byte order mark, in front of one that needs its quotes. -/
theorem read_writeRecords_lone_mark :
    let others : List Record := [⟨['"', ',', '\r', '\n', '\x00'], []⟩]
    let records : List Record := ⟨['\uFEFF'], []⟩ :: others
    let written := writeRecords records { capacity := 3 }
    (∀ first ∈ others.head?, losesMark first.name = false) ∧
      Table.read (.whole (writeRecords others { capacity := 3 }).1.received) =
        .ok (Table.ofRecords others) ∧
      records = ⟨'\uFEFF' :: [], []⟩ :: others ∧ ([] : Text).any isSpecial = false ∧
      Table.read (.whole written.1.received) = .ok (Table.ofRecords (⟨[], []⟩ :: others)) := by
  intro others records written
  have keepsMark : ∀ first ∈ others.head?, losesMark first.name = false := by decide
  have whole := (read_writeRecords 3 others).2.1 keepsMark
  have short := (read_writeRecords 3 records).2.2.1 [] [] others rfl rfl
  exact ⟨keepsMark, whole, rfl, rfl, short⟩

end ClassSizes.Csv
