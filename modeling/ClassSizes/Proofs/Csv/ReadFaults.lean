import ClassSizes.Proofs.Csv.RowPlace
import ClassSizes.Proofs.Delivery
import Mathlib.Data.List.Infix

/-!
# Reads that fail

A reader that reaches a fault has no table, however good the rows in front of the fault were.  The
failure is decided by the bytes up to the last place at which no row was under way: if they have a
bad row it is that row's, and otherwise it is the fault.  The bytes behind that place, which are the
beginning of a row that never came to its end, are not looked at, even if they would be a row at the
end of the input.
-/

namespace ClassSizes.Csv

/-- The longest beginning of bytes at whose end no row is under way. -/
structure LastSeam (bytes front : Bytes) : Prop where
  begins : front <+: bytes
  ends : EndsBetweenRows front
  longest : ∀ other, other <+: bytes → EndsBetweenRows other → other.length ≤ front.length

instance (bytes : Bytes) : Decidable (EndsBetweenRows bytes) :=
  decidable_of_iff
    (bytes = [] ∨ bytes.getLast?.any endsRow = true ∧ (scanned bytes).1.mode ≠ .quoted) <| by
      simp only [EndsBetweenRows, Option.any_eq_true, ← exists_and_right, and_assoc]

/-- It is enough to look at the beginnings of the bytes, of which there are finitely many. -/
theorem lastSeam_of_inits {bytes front : Bytes} (begins : front <+: bytes)
    (ends : EndsBetweenRows front)
    (longest : ∀ other ∈ bytes.inits, EndsBetweenRows other → other.length ≤ front.length) :
    LastSeam bytes front :=
  ⟨begins, ends, fun other begins => longest other ((List.mem_inits other bytes).mpr begins)⟩

theorem LastSeam.unique {bytes front other : Bytes} (seam : LastSeam bytes front)
    (again : LastSeam bytes other) : front = other := by
  have short : front.length ≤ other.length := again.longest front seam.begins seam.ends
  have long : other.length ≤ front.length := seam.longest other again.begins again.ends
  exact (List.prefix_of_prefix_length_le seam.begins again.begins short).eq_of_length
    (Nat.le_antisymm short long)

/-- A byte that completes a row ends bytes at whose end no row is under way. -/
theorem rows_scanned_concat {body : Bytes} {byte : UInt8}
    (underWay : ¬EndsBetweenRows (body ++ [byte])) :
    (scanned (body ++ [byte])).2 = (scanned body).2 := by
  by_cases noMark : byteOrderMark <+: body ++ [byte] → byteOrderMark <+: body
  · have joined := scanned_append noMark
    rw [Scanner.scan_cons, Scanner.scan_nil] at joined
    have moves := (scanned body).1.moves_feed byte
    generalize (scanned body).1.feed byte = outcome at joined moves
    cases moves with
    | passes | takes => simp [joined]
    | ends _ _ ends =>
        have between : (scanned (body ++ [byte])).1.mode ≠ .quoted := by
          rw [joined]
          exact nofun
        exact absurd (Or.inr ⟨byte, List.getLast?_concat, ends, between⟩) underWay
  · -- The byte is the last one of a byte order mark, and nothing else has been read.
    obtain ⟨marked, unmarked⟩ := Classical.not_imp.mp noMark
    have whole := (List.prefix_concat_iff.mp marked).resolve_right unmarked
    have body_eq : body = byteOrderMark.dropLast := by rw [whole, List.dropLast_concat]
    rw [← whole, body_eq]
    rfl

/-- Up to the last place at which no row is under way, all rows of bytes are complete. -/
theorem exists_lastSeam (bytes : Bytes) :
    ∃ front, LastSeam bytes front ∧ (scanned front).2 = (scanned bytes).2 := by
  induction bytes using List.reverseRecOn with
  | nil => exact ⟨[], ⟨List.prefix_rfl, Or.inl rfl, fun _ begins _ => begins.length_le⟩, rfl⟩
  | append_singleton body byte ih =>
      by_cases ends : EndsBetweenRows (body ++ [byte])
      · exact ⟨_, ⟨List.prefix_rfl, ends, fun _ begins _ => begins.length_le⟩, rfl⟩
      · obtain ⟨front, seam, rows⟩ := ih
        refine ⟨front, ⟨seam.begins.trans (List.prefix_append body [byte]), seam.ends, ?_⟩, ?_⟩
        · intro other begins between
          rcases List.prefix_concat_iff.mp begins with rfl | inBody
          · exact absurd between ends
          · exact seam.longest other inBody between
        · rw [rows, rows_scanned_concat ends]

/-- At a seam, reading a table is checking the complete rows. -/
theorem EndsBetweenRows.read_whole {bytes : Bytes} (ends : EndsBetweenRows bytes) :
    Table.read (.whole bytes) =
      ((scanned bytes).2.mapM RawRow.record?).map Table.ofRecords := by
  rw [Csv.read_whole, rowsOf_eq_scanned, Scanner.finish, if_pos ends.mode_scanned,
    Option.toList_none, List.append_nil]

/-- The failure of rows that a fault follows: that of the first bad row, or else the fault. -/
def failureOf (fault : Fault) (rows : List RawRow) : Failure :=
  match rows.mapM RawRow.record? with
  | .ok _ => .csv (.transfer fault)
  | .error failure => failure

theorem Reader.takeAll_fault (scanner : Scanner) (bytes : Bytes) (fault : Fault) :
    Reader.takeAll { scanner } bytes (some fault) =
      .error (failureOf fault (scanner.scan bytes).2) := by
  rw [takeAll, takeBytes_eq, failureOf]
  cases (scanner.scan bytes).2.mapM RawRow.record? <;> rfl

theorem readAll_fault (bytes : Bytes) (fault : Fault) :
    readAll bytes (some fault) = .error (failureOf fault (scanned bytes).2) := by
  unfold readAll scanned
  split <;> exact Reader.takeAll_fault _ _ fault

/-! ## Reads -/

/-- A read that fails, and how.  A table reader does not try an interrupted read again. -/
inductive Fails : Delivery → Fault → Prop
  | failed (fault : Fault) : Fails (.failed fault) fault
  | interrupted : Fails .interrupted .interrupted

/-- Reads that deliver bytes, and one that does not. -/
def readsThen (reads : List Chunk) (failing : Delivery) : Source :=
  reads.map .bytes ++ [failing]

theorem delivered_readsThen (reads : List Chunk) (fault : Fault) :
    (readsThen reads (.failed fault)).delivered = reads.flatMap Chunk.bytes := by
  induction reads with
  | nil => rfl
  | cons chunk reads ih => exact congrArg (chunk.bytes ++ ·) ih

theorem fault?_readsThen (reads : List Chunk) (fault : Fault) :
    (readsThen reads (.failed fault)).fault? = some fault := by
  induction reads with
  | nil => rfl
  | cons chunk reads ih => exact ih

theorem head?_readsThen {reads : List Chunk} {first : Chunk} (head : first ∈ reads.head?)
    (failing : Delivery) : (readsThen reads failing).head? = some (.bytes first) := by
  obtain ⟨rest, rfl⟩ := List.head?_eq_some_iff.mp head
  rfl

/-- A read that fails leaves the failure of the complete rows in front of it. -/
theorem records?_readsThen {reads : List Chunk} {failing : Delivery} {fault : Fault}
    (fails : Fails failing fault)
    (longFirst : byteOrderMark <+: reads.flatMap Chunk.bytes →
      ∃ first ∈ reads.head?, 4 ≤ first.bytes.length) :
    records? (readsThen reads failing) =
      .error (failureOf fault (scanned (reads.flatMap Chunk.bytes)).2) := by
  have sameFault : records? (readsThen reads failing) =
      records? (readsThen reads (.failed fault)) := by
    cases fails with
    | failed => rfl
    | interrupted => exact (records?_interrupted (reads.map .bytes) []).1
  have unbroken : .interrupted ∉ readsThen reads (.failed fault) := by
    simp [readsThen]
  have inFirst : LongFirst (readsThen reads (.failed fault))
      (readsThen reads (.failed fault)).delivered := by
    intro marked
    rw [delivered_readsThen] at marked
    obtain ⟨first, head, long⟩ := longFirst marked
    exact ⟨first, head?_readsThen head _, long⟩
  rw [sameFault, records?_eq_readAll unbroken inFirst, delivered_readsThen, fault?_readsThen,
    readAll_fault]

/-- However many bytes of an input are read before a read fails, there is no table.  The failure is
that of the bytes up to the last place at which no row is under way, and where they alone are a
table it is the fault. -/
theorem read_of_failing_read {bytes : Bytes} {count : Nat} {reads : List Chunk}
    {failing : Delivery} {fault : Fault} (fails : Fails failing fault)
    (delivered : reads.flatMap Chunk.bytes = bytes.take count)
    (longFirst : byteOrderMark <+: bytes → ∃ first ∈ reads.head?, 4 ≤ first.bytes.length) :
    (∀ table, Table.read (readsThen reads failing) ≠ .ok table) ∧
      ∃ front, LastSeam (bytes.take count) front ∧
        (∀ other, LastSeam (bytes.take count) other → other = front) ∧
        (∀ failure, Table.read (.whole front) = .error failure →
          Table.read (readsThen reads failing) = .error failure) ∧
        ∀ table, Table.read (.whole front) = .ok table →
          Table.read (readsThen reads failing) = .error (.csv (.transfer fault)) := by
  have marked : byteOrderMark <+: reads.flatMap Chunk.bytes → byteOrderMark <+: bytes := by
    rw [delivered]
    exact fun marked => marked.trans (List.take_prefix count bytes)
  obtain ⟨front, seam, sameRows⟩ := exists_lastSeam (bytes.take count)
  have read : Table.read (readsThen reads failing) =
      .error (failureOf fault (scanned front).2) := by
    have records := records?_readsThen fails fun isMarked => longFirst (marked isMarked)
    rw [delivered, ← sameRows] at records
    exact congrArg (Except.map Table.ofRecords) records
  rw [read]
  refine ⟨nofun, front, seam, fun other again => again.unique seam, ?_⟩
  rw [seam.ends.read_whole, failureOf]
  cases (scanned front).2.mapM RawRow.record? with
  | ok records => exact ⟨nofun, fun _ _ => rfl⟩
  | error failure => exact ⟨fun _ failed => failed, nofun⟩

/-- A row without a second field of which the end is not read, between a carriage return and a line
feed and then behind a quote; and a row like it of which the end is read. -/
theorem read_of_failing_read_torn_row :
    let rows := Utf8.encode "A,1\r\nB\r\n\"C".toList
    let reads : List Chunk := [⟨rows.take 4, by decide⟩, ⟨rows.drop 4 |>.take 2, by decide⟩]
    let torn := readsThen reads .interrupted
    let whole := readsThen [⟨rows, by decide⟩] (.failed .isDirectory)
    LastSeam (rows.take 6) (rows.take 5) ∧ LastSeam (rows.take 11) (rows.take 8) ∧
      ¬byteOrderMark <+: rows ∧
      Table.read torn = .error (.csv (.transfer .interrupted)) ∧
      Table.read whole = .error (.invalidRecord 1 1) := by
  intro rows reads torn whole
  have unmarked : ¬byteOrderMark <+: rows := by decide
  have tornSeam : LastSeam (rows.take 6) (rows.take 5) :=
    lastSeam_of_inits (by decide) (by decide) (by decide)
  have wholeSeam : LastSeam (rows.take 11) (rows.take 8) :=
    lastSeam_of_inits (by decide) (by decide) (by decide)
  have tornDelivered : reads.flatMap Chunk.bytes = rows.take 6 := by decide
  have wholeDelivered : [(⟨rows, by decide⟩ : Chunk)].flatMap Chunk.bytes = rows.take 11 := by
    decide
  obtain ⟨_, front, _, tornUnique, _, interrupted⟩ :=
    read_of_failing_read .interrupted tornDelivered fun marked => absurd marked unmarked
  obtain ⟨_, other, _, wholeUnique, bad, _⟩ :=
    read_of_failing_read (.failed .isDirectory) wholeDelivered fun marked => absurd marked unmarked
  obtain rfl := tornUnique _ tornSeam
  obtain rfl := wholeUnique _ wholeSeam
  have table : Table.read (.whole (rows.take 5)) = .ok (.ofRecords [⟨['A'], ['1']⟩]) := rfl
  have refused : Table.read (.whole (rows.take 8)) = .error (.invalidRecord 1 1) := rfl
  exact ⟨tornSeam, wholeSeam, unmarked, interrupted _ table, bad _ refused⟩

end ClassSizes.Csv
