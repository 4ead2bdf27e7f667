import ClassSizes.Proofs.Csv.Scanning
import ClassSizes.Table

/-!
# Joined rows

Where a row has ended and no other has begun, the scanner has forgotten everything but its place:
what follows is scanned as if it stood at the front, except that rows are counted on.  Bytes that
are continued at such a seam therefore make the table of the first part continued by that of the
second, or the first failure of either.

`Behind` says that two scanners, rows or failures differ in their places only, and that the first
stands behind so many more rows than the second.
-/

namespace ClassSizes

/-- A failure to read a row, and the same failure where the row stands behind `count` fewer rows. -/
inductive Failure.Behind (count : Nat) : Failure → Failure → Prop
  | notUtf8 {place other : Csv.Place} (field validLength : Nat) :
      place.row = other.row + count →
      Behind count (.csv (.notUtf8 place field validLength)) (.csv (.notUtf8 other field validLength))
  | invalidRecord (line other columns : Nat) :
      Behind count (.invalidRecord line columns) (.invalidRecord other columns)

namespace Csv

/-- The same row, found behind `count` fewer rows. -/
structure RawRow.Behind (count : Nat) (row other : RawRow) : Prop where
  fields : row.fields = other.fields
  place_row : row.place.row = other.place.row + count

theorem forall₂_toList {α β : Type} {relation : α → β → Prop} {first : Option α}
    {second : Option β} (related : Option.Rel relation first second) :
    List.Forall₂ relation first.toList second.toList := by
  cases related with
  | none => exact .nil
  | some related => exact .cons related .nil

namespace Scanner

/-! ## Scanning behind other rows -/

/-- Two scanners that have the same row under way, the first behind `count` more rows. -/
structure Behind (count : Nat) (scanner other : Scanner) : Prop where
  mode : scanner.mode = other.mode
  field : scanner.field = other.field
  fields : scanner.fields = other.fields
  here_row : scanner.here.row = other.here.row + count
  origin_row : scanner.origin.row = other.origin.row + count

/-- The same for what they make of a byte. -/
def FedBehind (count : Nat) (outcome other : Scanner × Option RawRow) : Prop :=
  Behind count outcome.1 other.1 ∧ Option.Rel (RawRow.Behind count) outcome.2 other.2

namespace Behind

variable {count : Nat} {scanner other : Scanner}

theorem keep (behind : Behind count scanner other) (mode : Mode) (byte : UInt8) :
    Behind count (scanner.keep mode byte) (other.keep mode byte) where
  mode := rfl
  field := congrArg (byte :: ·) behind.field
  fields := behind.fields
  here_row := behind.here_row
  origin_row := behind.origin_row

theorem endField (behind : Behind count scanner other) :
    Behind count scanner.endField other.endField where
  mode := rfl
  field := rfl
  fields := by simp only [Scanner.endField, behind.field, behind.fields]
  here_row := behind.here_row
  origin_row := behind.origin_row

theorem currentRow (behind : Behind count scanner other) :
    RawRow.Behind count scanner.currentRow other.currentRow where
  fields := by simp only [Scanner.currentRow, behind.field, behind.fields]
  place_row := behind.origin_row

theorem endRow (behind : Behind count scanner other) :
    FedBehind count scanner.endRow other.endRow := by
  have next : scanner.here.row + 1 = other.here.row + 1 + count := by
    rw [behind.here_row, Nat.add_right_comm]
  exact ⟨⟨rfl, rfl, rfl, next, next⟩, .some behind.currentRow⟩

theorem feedBare (behind : Behind count scanner other) (byte : UInt8) :
    FedBehind count (scanner.feedBare byte) (other.feedBare byte) := by
  unfold Scanner.feedBare
  split
  · exact ⟨behind.endField, .none⟩
  · split
    · exact behind.endRow
    · exact ⟨behind.keep .bare byte, .none⟩

theorem feedFieldStart (behind : Behind count scanner other) (byte : UInt8) :
    FedBehind count (scanner.feedFieldStart byte) (other.feedFieldStart byte) := by
  unfold Scanner.feedFieldStart
  split
  · exact ⟨{ behind with mode := rfl }, .none⟩
  · exact behind.feedBare byte

/-- A byte does the same to both. -/
theorem feed (behind : Behind count scanner other) (byte : UInt8) :
    FedBehind count (scanner.feed byte) (other.feed byte) := by
  have advanced : Behind count { scanner with here := scanner.here.advance byte }
      { other with here := other.here.advance byte } :=
    { behind with }
  unfold Scanner.feed
  rw [behind.mode]
  cases other.mode with
  | between =>
      simp only
      split
      · exact ⟨{ advanced with mode := rfl }, .none⟩
      · exact advanced.feedFieldStart byte
  | fieldStart => exact advanced.feedFieldStart byte
  | bare => exact advanced.feedBare byte
  | quoted =>
      simp only
      split
      · exact ⟨{ advanced with mode := rfl }, .none⟩
      · exact ⟨advanced.keep .quoted byte, .none⟩
  | quoteSeen =>
      simp only
      split
      · exact ⟨advanced.keep .quoted byte, .none⟩
      · exact advanced.feedBare byte

/-- And so do all bytes in a row. -/
theorem scan (behind : Behind count scanner other) (bytes : Bytes) :
    Behind count (scanner.scan bytes).1 (other.scan bytes).1 ∧
      List.Forall₂ (RawRow.Behind count) (scanner.scan bytes).2 (other.scan bytes).2 := by
  induction bytes generalizing scanner other with
  | nil => exact ⟨behind, .nil⟩
  | cons byte rest ih =>
      obtain ⟨next, row⟩ := behind.feed byte
      obtain ⟨last, rows⟩ := ih next
      rw [scan_cons, scan_cons]
      exact ⟨last, List.rel_append (forall₂_toList row) rows⟩

theorem finish (behind : Behind count scanner other) :
    Option.Rel (RawRow.Behind count) scanner.finish other.finish := by
  unfold Scanner.finish
  rw [behind.mode]
  split
  · exact .none
  · exact .some behind.currentRow

theorem rowsOf (behind : Behind count scanner other) (bytes : Bytes) :
    List.Forall₂ (RawRow.Behind count) (scanner.rowsOf bytes) (other.rowsOf bytes) := by
  obtain ⟨last, rows⟩ := behind.scan bytes
  exact List.rel_append rows (forall₂_toList last.finish)

end Behind

/-! ## What a byte can do -/

/-- What a scanner, its place advanced already, makes of a byte: it passes over a line end, takes
the byte into the row under way, or completes that row. -/
inductive Takes (scanner : Scanner) (byte : UInt8) : Scanner × Option RawRow → Prop
  | passed : scanner.mode = .between → Takes scanner byte (scanner, none)
  | within {mode : Mode} {field : Bytes} {fields : List Bytes} :
      mode ≠ .between → (endsRow byte = true → mode = .quoted) →
      Takes scanner byte ({ scanner with mode, field, fields }, none)
  | ended : Takes scanner byte scanner.endRow

variable {scanner : Scanner}

theorem takes_feedBare (scanner : Scanner) (byte : UInt8) :
    scanner.Takes byte (scanner.feedBare byte) := by
  unfold feedBare
  split
  · next isComma =>
    subst isComma
    exact .within nofun nofun
  · split
    · exact .ended
    · next notEnd => exact .within nofun fun ends => absurd ends notEnd

theorem takes_feedFieldStart (scanner : Scanner) (byte : UInt8) :
    scanner.Takes byte (scanner.feedFieldStart byte) := by
  unfold feedFieldStart
  split
  · exact .within nofun fun _ => rfl
  · exact takes_feedBare scanner byte

theorem takes_feed (scanner : Scanner) (byte : UInt8) :
    Takes { scanner with here := scanner.here.advance byte } byte (scanner.feed byte) := by
  unfold feed
  cases mode : scanner.mode with
  | between =>
      simp only
      split
      · exact .passed rfl
      · exact takes_feedFieldStart _ byte
  | fieldStart => exact takes_feedFieldStart _ byte
  | bare => exact takes_feedBare _ byte
  | quoted =>
      simp only
      split
      · next isQuote =>
        subst isQuote
        exact .within nofun nofun
      · exact .within nofun fun _ => rfl
  | quoteSeen =>
      simp only
      split
      · exact .within nofun fun _ => rfl
      · exact takes_feedBare _ byte

/-- A line end leaves the scanner between rows or between quotes. -/
theorem mode_feed_of_endsRow (scanner : Scanner) {byte : UInt8} (ends : endsRow byte = true) :
    (scanner.feed byte).1.mode = .between ∨ (scanner.feed byte).1.mode = .quoted := by
  have takes := scanner.takes_feed byte
  generalize scanner.feed byte = outcome at takes ⊢
  cases takes with
  | passed between => exact Or.inl between
  | within _ quoted => exact Or.inr (quoted ends)
  | ended => exact Or.inl rfl

/-- A scanner that has found so many rows since it began to read. -/
structure HasFound (scanner : Scanner) (count : Nat) : Prop where
  here_row : scanner.here.row = count
  origin_row : scanner.origin.row = count
  field : scanner.mode = .between → scanner.field = []
  fields : scanner.mode = .between → scanner.fields = []

namespace HasFound

variable {count : Nat}

/-- A scanner that begins, whatever byte and line it begins at. -/
theorem fresh {here : Place} (first : here.row = 0) : HasFound { here } 0 :=
  ⟨first, rfl, fun _ => rfl, fun _ => rfl⟩

theorem feed (found : scanner.HasFound count) (byte : UInt8) :
    (scanner.feed byte).1.HasFound (count + (scanner.feed byte).2.toList.length) := by
  have takes := scanner.takes_feed byte
  generalize scanner.feed byte = outcome at takes ⊢
  cases takes with
  | passed between => exact ⟨found.here_row, found.origin_row, found.field, found.fields⟩
  | within begun _ =>
      exact ⟨found.here_row, found.origin_row, fun between => absurd between begun,
        fun between => absurd between begun⟩
  | ended =>
      have next : scanner.here.row + 1 = count + 1 := by rw [found.here_row]
      exact ⟨next, next, fun _ => rfl, fun _ => rfl⟩

theorem scan (found : scanner.HasFound count) (bytes : Bytes) :
    (scanner.scan bytes).1.HasFound (count + (scanner.scan bytes).2.length) := by
  induction bytes generalizing scanner count with
  | nil => exact found
  | cons byte rest ih =>
      rw [scan_cons, List.length_append, ← Nat.add_assoc]
      exact ih (found.feed byte)

/-- Between rows, a scanner differs from a fresh one in its place only. -/
theorem behind (found : scanner.HasFound count) (between : scanner.mode = .between) :
    Behind count scanner {} where
  mode := between
  field := found.field between
  fields := found.fields between
  here_row := by rw [found.here_row, Nat.zero_add]
  origin_row := by rw [found.origin_row, Nat.zero_add]

end HasFound

end Scanner

/-! ## Seams -/

/-- The scanner after bytes that are delivered at once, and the rows that they complete. -/
def scanned (bytes : Bytes) : Scanner × List RawRow :=
  if byteOrderMark.isPrefixOf bytes then
    Scanner.scan (Scanner.skip {} byteOrderMark.length) (bytes.drop byteOrderMark.length)
  else Scanner.scan {} bytes

theorem rowsOf_eq_scanned (bytes : Bytes) :
    rowsOf bytes = (scanned bytes).2 ++ (scanned bytes).1.finish.toList := by
  unfold rowsOf scanned
  split <;> rfl

theorem hasFound_scanned (bytes : Bytes) :
    (scanned bytes).1.HasFound (scanned bytes).2.length := by
  rw [← Nat.zero_add (scanned bytes).2.length]
  unfold scanned
  split
  · exact (Scanner.HasFound.fresh rfl).scan _
  · exact (Scanner.HasFound.fresh rfl).scan _

/-- Bytes that are continued behind them, without the continuation adding to a byte order mark. -/
theorem scanned_append {first second : Bytes}
    (noMark : byteOrderMark <+: first ++ second → byteOrderMark <+: first) :
    scanned (first ++ second) =
      (((scanned first).1.scan second).1,
        (scanned first).2 ++ ((scanned first).1.scan second).2) := by
  unfold scanned
  by_cases marked : byteOrderMark <+: first
  · have joined : byteOrderMark <+: first ++ second := marked.trans (List.prefix_append _ _)
    rw [if_pos (List.isPrefixOf_iff_prefix.mpr marked),
      if_pos (List.isPrefixOf_iff_prefix.mpr joined),
      List.drop_append_of_le_length marked.length_le, Scanner.scan_append]
  · rw [if_neg fun isPrefix => marked (List.isPrefixOf_iff_prefix.mp isPrefix),
      if_neg fun isPrefix => marked (noMark (List.isPrefixOf_iff_prefix.mp isPrefix)),
      Scanner.scan_append]

/-- Bytes at whose end no row is under way: there are none, or the last one is a line end that does
not stand between quotes. -/
def EndsBetweenRows (bytes : Bytes) : Prop :=
  bytes = [] ∨
    ∃ byte, bytes.getLast? = some byte ∧ endsRow byte = true ∧ (scanned bytes).1.mode ≠ .quoted

/-- No line end stands in a byte order mark. -/
theorem endsRow_of_mem_byteOrderMark {byte : UInt8} (member : byte ∈ byteOrderMark) :
    endsRow byte = false := by
  have apart : byteOrderMark.all (!endsRow ·) = true := rfl
  rw [List.all_eq_true] at apart
  simpa using apart byte member

namespace EndsBetweenRows

variable {first second : Bytes}

theorem mode_scanned (ends : EndsBetweenRows first) : (scanned first).1.mode = .between := by
  rcases ends with rfl | ⟨byte, last, endsRow, notQuoted⟩
  · rfl
  · obtain ⟨body, rfl⟩ := List.getLast?_eq_some_iff.mp last
    have noMark : byteOrderMark <+: body ++ [byte] → byteOrderMark <+: body := by
      intro marked
      rcases List.prefix_concat_iff.mp marked with whole | inBody
      · have member : byte ∈ byteOrderMark := by simp [whole]
        rw [endsRow_of_mem_byteOrderMark member] at endsRow
        contradiction
      · exact inBody
    rw [scanned_append noMark] at notQuoted ⊢
    exact ((scanned body).1.mode_feed_of_endsRow endsRow).resolve_right notQuoted

/-- A byte order mark at the front of joined bytes stands in their first part. -/
theorem mark_of_append (ends : EndsBetweenRows first) (unmarked : ¬byteOrderMark <+: second)
    (marked : byteOrderMark <+: first ++ second) : byteOrderMark <+: first := by
  rcases ends with rfl | ⟨byte, last, endsRow, _⟩
  · exact absurd marked unmarked
  · rcases List.prefix_or_prefix_of_prefix marked (List.prefix_append first second) with
      inFirst | inMark
    · exact inFirst
    · have member : byte ∈ byteOrderMark := inMark.subset (List.mem_of_getLast? last)
      rw [endsRow_of_mem_byteOrderMark member] at endsRow
      contradiction

/-- The rows of joined bytes are those of both parts, the second counted on from the first. -/
theorem exists_rowsOf_append (ends : EndsBetweenRows first)
    (unmarked : ¬byteOrderMark <+: second) :
    ∃ rest, rowsOf (first ++ second) = rowsOf first ++ rest ∧
      List.Forall₂ (RawRow.Behind (rowsOf first).length) rest (rowsOf second) := by
  have between := ends.mode_scanned
  have found : rowsOf first = (scanned first).2 := by
    rw [rowsOf_eq_scanned, Scanner.finish, if_pos between]
    exact List.append_nil _
  have alone : rowsOf second = Scanner.rowsOf {} second :=
    if_neg fun isPrefix => unmarked (List.isPrefixOf_iff_prefix.mp isPrefix)
  refine ⟨(scanned first).1.rowsOf second, ?_, ?_⟩
  · rw [rowsOf_eq_scanned, scanned_append (ends.mark_of_append unmarked), found, List.append_assoc]
    rfl
  · rw [found, alone]
    exact ((hasFound_scanned first).behind between).rowsOf second

end EndsBetweenRows

/-! ## Checking rows behind others -/

/-- The same value, or the same failure behind `count` fewer rows. -/
inductive ReadBehind {α : Type} (count : Nat) : Except Failure α → Except Failure α → Prop
  | ok (value : α) : ReadBehind count (.ok value) (.ok value)
  | error {failure other : Failure} :
      failure.Behind count other → ReadBehind count (.error failure) (.error other)

theorem RawRow.Behind.record? {count : Nat} {row other : RawRow} (behind : row.Behind count other) :
    ReadBehind count row.record? other.record? := by
  unfold RawRow.record?
  rw [behind.fields]
  split
  · exact .error (.notUtf8 _ _ behind.place_row)
  · split
    · exact .ok _
    · exact .error (.invalidRecord _ _ _)

theorem ReadBehind.bind {α β : Type} {count : Nat} {outcome other : Except Failure α}
    (behind : ReadBehind count outcome other) {next nextOther : α → Except Failure β}
    (behindNext : ∀ value, ReadBehind count (next value) (nextOther value)) :
    ReadBehind count (outcome >>= next) (other >>= nextOther) := by
  cases behind with
  | ok value => exact behindNext value
  | error failure => exact .error failure

theorem readBehind_mapM {count : Nat} {rows others : List RawRow}
    (behind : List.Forall₂ (RawRow.Behind count) rows others) :
    ReadBehind count (rows.mapM RawRow.record?) (others.mapM RawRow.record?) := by
  induction behind with
  | nil => exact .ok []
  | cons row _ ih =>
      rw [List.mapM_cons, List.mapM_cons]
      exact row.record?.bind fun record => ih.bind fun records => .ok (record :: records)

/-- Rows are accepted together when each is accepted. -/
theorem forall₂_of_mapM_record? {rows : List RawRow} {records : List Record}
    (accepted : rows.mapM RawRow.record? = .ok records) :
    List.Forall₂ (fun row record => row.record? = .ok record) rows records := by
  induction rows generalizing records with
  | nil =>
      cases accepted
      exact .nil
  | cons row rows ih =>
      rw [List.mapM_cons] at accepted
      cases first : row.record? with
      | error failure =>
          rw [first] at accepted
          contradiction
      | ok record =>
          rw [first] at accepted
          cases rest : rows.mapM RawRow.record? with
          | error failure =>
              rw [rest] at accepted
              contradiction
          | ok others =>
              rw [rest] at accepted
              cases accepted
              exact .cons first (ih rest)

/-! ## The table of joined rows -/

theorem read_whole (bytes : Bytes) :
    Table.read (.whole bytes) = ((rowsOf bytes).mapM RawRow.record?).map Table.ofRecords := by
  rw [Table.read, records?_whole]

/-- What the rows are read as is what the table holds. -/
theorem mapM_record?_rowsOf (bytes : Bytes) :
    (rowsOf bytes).mapM RawRow.record? = (Table.read (.whole bytes)).map Table.toList := by
  rw [read_whole]
  cases (rowsOf bytes).mapM RawRow.record? with
  | error failure => rfl
  | ok records => exact congrArg Except.ok (Table.toList_ofRecords records).symm

/-- At a seam between rows, reading a table is compositional.  A failure of the first part is the
failure of the whole.  Behind a first part that is a table, the second part adds its records or
fails as it does alone, except for the place; and no table leaves out rows of its input. -/
theorem read_joined {first second : Bytes} (ends : EndsBetweenRows first)
    (unmarked : ¬byteOrderMark <+: second) :
    (∀ failure, Table.read (.whole first) = .error failure →
        Table.read (.whole (first ++ second)) = .error failure) ∧
      (∀ table, Table.read (.whole first) = .ok table →
        (∀ more, Table.read (.whole second) = .ok more →
          Table.read (.whole (first ++ second)) =
            .ok (.ofRecords (table.toList ++ more.toList))) ∧
        ∀ failure, Table.read (.whole second) = .error failure →
          ∃ later, Table.read (.whole (first ++ second)) = .error later ∧
            later.Behind table.length failure) ∧
      ∀ bytes table, Table.read (.whole bytes) = .ok table →
        List.Forall₂ (fun row record => row.record? = .ok record) (rowsOf bytes) table.toList := by
  obtain ⟨rest, joined, behind⟩ := ends.exists_rowsOf_append unmarked
  refine ⟨?_, ?_, fun bytes table read => forall₂_of_mapM_record? ?_⟩
  · intro failure failed
    rw [read_whole, joined, List.mapM_append, mapM_record?_rowsOf, failed]
    rfl
  · intro table read
    have accepted : (rowsOf first).mapM RawRow.record? = .ok table.toList := by
      rw [mapM_record?_rowsOf, read]
      rfl
    have length : table.length = (rowsOf first).length := by
      rw [Table.length_eq, (forall₂_of_mapM_record? accepted).length_eq]
    have checked := readBehind_mapM behind
    rw [← length] at checked
    have whole : Table.read (.whole (first ++ second)) =
        (rest.mapM RawRow.record?).map fun more => Table.ofRecords (table.toList ++ more) := by
      rw [read_whole, joined, List.mapM_append, accepted]
      cases rest.mapM RawRow.record? <;> rfl
    rw [whole]
    rw [mapM_record?_rowsOf second] at checked
    generalize rest.mapM RawRow.record? = outcome at checked ⊢
    constructor
    · intro more readMore
      rw [readMore] at checked
      cases checked with
      | ok records => rfl
    · intro failure failed
      rw [failed] at checked
      cases checked with
      | error behindFailure => exact ⟨_, rfl, behindFailure⟩
  · rw [mapM_record?_rowsOf, read]
    rfl

/-- A seam between a carriage return and a line feed, in front of a row that is not UTF-8. -/
theorem read_joined_split_line_end :
    let first := Utf8.encode "\"A\n\",1\r".toList
    let second := newLine :: Utf8.encode "B,".toList ++ [0xFF]
    let failure := Failure.csv (.notUtf8 {} 1 0)
    EndsBetweenRows first ∧ ¬byteOrderMark <+: second ∧
      Table.read (.whole first) = .ok (.ofRecords [⟨['A', '\n'], ['1']⟩]) ∧
      Table.read (.whole second) = .error failure ∧
      ∃ later, Table.read (.whole (first ++ second)) = .error later ∧ later.Behind 1 failure := by
  intro first second failure
  have ends : EndsBetweenRows first := Or.inr ⟨carriageReturn, by decide, by decide, by decide⟩
  have unmarked : ¬byteOrderMark <+: second := by decide
  have read : Table.read (.whole first) = .ok (.ofRecords [⟨['A', '\n'], ['1']⟩]) := rfl
  have failed : Table.read (.whole second) = .error failure := rfl
  have later := ((read_joined ends unmarked).2.1 _ read).2 failure failed
  exact ⟨ends, unmarked, read, failed, later⟩

end Csv

end ClassSizes
