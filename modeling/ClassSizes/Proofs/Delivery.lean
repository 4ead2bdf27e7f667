import ClassSizes.Proofs.Report.Run
import ClassSizes.Table

/-!
# Delivery does not matter

The same bytes may arrive in one read or in many, cut inside a character, a marker or a quoted
field.  A run carries the piece under way across every cut, and a table reader its scanner, so
neither sees where the cuts are.

They differ in two ways.  A run tries an interrupted read again, and a table reader takes it for a
fault.  A table reader looks for a byte order mark in the first read only, so that a mark has to
arrive in one piece, and takes its input for ended if the mark is all that this read has brought.
-/

namespace ClassSizes

/-! ## Runs -/

/-- A run depends on what its source delivers and on how the source ends, and on nothing else. -/
theorem Extraction.run_congr {first second : Source}
    (sameBytes : first.delivered = second.delivered) (sameEnd : first.fault? = second.fault?)
    (sink : Sink) : run first sink = run second sink := by
  have sameLines : linesOf first = linesOf second := by
    rw [linesOf, linesOf, sameBytes, sameEnd]
  rw [run_eq_settle, run_eq_settle, sameLines, sameEnd]

/-! ## Tables -/

namespace Csv

namespace Reader

theorem takeBytes_append (reader : Reader) (first second : Bytes) :
    reader.takeBytes (first ++ second) =
      match reader.takeBytes first with
      | .ok next => next.takeBytes second
      | .error failure => .error failure := by
  induction first generalizing reader with
  | nil => rfl
  | cons byte first ih =>
      rw [List.cons_append, takeBytes, takeBytes]
      rcases reader.scanner.feed byte with ⟨scanner, row⟩
      simp only
      cases takeRow reader.records row with
      | ok records => exact ih _
      | error failure => rfl

/-- Read bytes that the end of the input follows, or a fault. -/
def takeAll (reader : Reader) (bytes : Bytes) (reached : Option Fault) :
    Except Failure (List Record) :=
  match reader.takeBytes bytes with
  | .ok next =>
      match reached with
      | none => next.takeEnd
      | some fault => .error (.csv (.transfer fault))
  | .error failure => .error failure

/-- Without interruptions, a source is read like the bytes that it delivers, followed by its end or
its fault. -/
theorem takeSource_eq (reader : Reader) {source : Source} (unbroken : .interrupted ∉ source) :
    reader.takeSource source = reader.takeAll source.delivered source.fault? := by
  induction source generalizing reader with
  | nil => rfl
  | cons delivery rest ih =>
      rw [List.mem_cons, not_or] at unbroken
      cases delivery with
      | bytes chunk =>
          rw [takeSource, Source.delivered, Source.fault?, takeAll, takeBytes_append]
          cases reader.takeBytes chunk.bytes with
          | ok next => exact ih next unbroken.2
          | error failure => rfl
      | interrupted => exact absurd rfl unbroken.1
      | failed fault => rfl

/-- A reader comes to the end of a part of its source, or fails in it whatever follows. -/
theorem takeSource_append (reader : Reader) (before : Source) :
    (∃ failure, ∀ after, reader.takeSource (before ++ after) = .error failure) ∨
      ∃ next : Reader, ∀ after, reader.takeSource (before ++ after) = next.takeSource after := by
  induction before generalizing reader with
  | nil => exact Or.inr ⟨reader, fun _ => rfl⟩
  | cons delivery before ih =>
      cases delivery with
      | bytes chunk =>
          simp only [List.cons_append, takeSource]
          cases reader.takeBytes chunk.bytes with
          | ok next => exact ih next
          | error failure => exact Or.inl ⟨failure, fun _ => rfl⟩
      | interrupted => exact Or.inl ⟨_, fun _ => rfl⟩
      | failed fault => exact Or.inl ⟨_, fun _ => rfl⟩

/-- An interruption stops a reader like a fault, and the reader fails. -/
theorem takeSource_interrupted (reader : Reader) (before after : Source) :
    reader.takeSource (before ++ .interrupted :: after) =
        reader.takeSource (before ++ [.failed .interrupted]) ∧
      ∃ failure, reader.takeSource (before ++ .interrupted :: after) = .error failure := by
  rcases reader.takeSource_append before with ⟨failure, fails⟩ | ⟨next, continues⟩
  · rw [fails, fails]
    exact ⟨rfl, failure, rfl⟩
  · rw [continues, continues]
    exact ⟨rfl, _, rfl⟩

end Reader

/-- The records of bytes that the end of the input follows, or a fault. -/
def readAll (bytes : Bytes) (reached : Option Fault) : Except Failure (List Record) :=
  if byteOrderMark.isPrefixOf bytes then
    Reader.takeAll { scanner := Scanner.skip {} byteOrderMark.length }
      (bytes.drop byteOrderMark.length) reached
  else Reader.takeAll {} bytes reached

/-! ### The first read -/

/-- The first read of a source brings a byte order mark and nothing else. -/
def BeginsWithBareMark (source : Source) : Prop :=
  ∃ first, source.head? = some (.bytes first) ∧ first.bytes = byteOrderMark

theorem BeginsWithBareMark.append {source : Source} (bare : BeginsWithBareMark source)
    (later : Source) : BeginsWithBareMark (source ++ later) := by
  rcases bare with ⟨first, head, isMark⟩
  exact ⟨first, by rw [List.head?_append, head, Option.some_or], isMark⟩

/-- A reader takes its input for ended behind a byte order mark that came alone. -/
theorem BeginsWithBareMark.records?_eq {source : Source} (bare : BeginsWithBareMark source) :
    records? source = .ok [] := by
  rcases bare with ⟨first, head, isMark⟩
  rcases List.head?_eq_some_iff.mp head with ⟨rest, rfl⟩
  rw [records?, start, isMark]
  rfl

/-- A fault behind such a mark is never reached. -/
example : records? [.bytes ⟨byteOrderMark, by decide⟩, .failed .isDirectory] = .ok [] := rfl

/-- A first read that is long enough for a byte order mark, and for more than the mark, if the bytes
begin with one. -/
def LongFirst (source : Source) (bytes : Bytes) : Prop :=
  byteOrderMark <+: bytes → ∃ first, source.head? = some (.bytes first) ∧ 4 ≤ first.bytes.length

theorem behindMark_cons {left : Bytes} (some : left ≠ []) (rest : Source) :
    behindMark left rest = .bytes ⟨left, some⟩ :: rest := by
  cases left with
  | nil => contradiction
  | cons first left => rfl

/-- A byte order mark is found if it lies in the first read and does not come alone. -/
theorem records?_eq_readAll {source : Source} (unbroken : .interrupted ∉ source)
    (longFirst : LongFirst source source.delivered) :
    records? source = readAll source.delivered source.fault? := by
  cases source with
  | nil => rfl
  | cons delivery rest =>
      cases delivery with
      | bytes chunk =>
          have sameMark : byteOrderMark.isPrefixOf (chunk.bytes ++ Source.delivered rest) =
              byteOrderMark.isPrefixOf chunk.bytes := by
            rw [Bool.eq_iff_iff, List.isPrefixOf_iff_prefix, List.isPrefixOf_iff_prefix]
            constructor
            · intro marked
              obtain ⟨first, head, long⟩ := longFirst marked
              cases head
              exact List.prefix_of_prefix_length_le marked (List.prefix_append _ _)
                (Nat.le_of_succ_le long)
            · intro marked
              exact marked.trans (List.prefix_append _ _)
          rw [records?, start, readAll, Source.delivered, Source.fault?, sameMark]
          by_cases marked : byteOrderMark.isPrefixOf chunk.bytes = true
          · have isPrefix := List.isPrefixOf_iff_prefix.mp marked
            obtain ⟨first, head, long⟩ := longFirst (isPrefix.trans (List.prefix_append _ _))
            cases head
            have left : chunk.bytes.drop byteOrderMark.length ≠ [] := by
              rw [← List.length_pos_iff, List.length_drop]
              exact Nat.sub_pos_of_lt long
            have unbrokenAfter : .interrupted ∉ Delivery.bytes ⟨_, left⟩ :: rest := by
              simpa using unbroken
            simp only [if_pos marked, behindMark_cons left]
            rw [Reader.takeSource_eq _ unbrokenAfter,
              List.drop_append_of_le_length isPrefix.length_le]
            rfl
          · simp only [if_neg marked]
            exact Reader.takeSource_eq {} unbroken
      | interrupted => exact absurd List.mem_cons_self unbroken
      | failed fault => rfl

/-- What comes in the place of a later read is read, unless the first read brings a byte order mark
and nothing else. -/
theorem start_append {delivery : Delivery} (noRead : ∀ chunk, delivery ≠ .bytes chunk)
    {before : Source} (notBare : ¬BeginsWithBareMark before) (after : Source) :
    start (before ++ delivery :: after) =
      ((start before).1, (start before).2 ++ delivery :: after) := by
  cases before with
  | nil =>
      cases delivery with
      | bytes chunk => exact absurd rfl (noRead chunk)
      | interrupted => rfl
      | failed fault => rfl
  | cons first before =>
      cases first with
      | bytes chunk =>
          rw [List.cons_append, start, start]
          split
          case isTrue marked =>
            have left : chunk.bytes.drop byteOrderMark.length ≠ [] := by
              intro nothing
              have isPrefix := List.isPrefixOf_iff_prefix.mp marked
              have short := List.drop_eq_nil_iff.mp nothing
              exact notBare ⟨chunk, rfl, (isPrefix.eq_of_length_le short).symm⟩
            rw [behindMark_cons left, behindMark_cons left]
            rfl
          case isFalse => rfl
      | interrupted => rfl
      | failed fault => rfl

/-- An interruption ends the reading of records like a fault, and the reading fails unless it has
been taken for ended before. -/
theorem records?_interrupted (before after : Source) :
    records? (before ++ .interrupted :: after) = records? (before ++ [.failed .interrupted]) ∧
      (¬BeginsWithBareMark before →
        ∃ failure, records? (before ++ .interrupted :: after) = .error failure) := by
  by_cases bare : BeginsWithBareMark before
  · refine ⟨?_, absurd bare⟩
    rw [(bare.append _).records?_eq, (bare.append _).records?_eq]
  · have interrupts : ∀ chunk, Delivery.interrupted ≠ .bytes chunk := nofun
    have fails : ∀ chunk, Delivery.failed .interrupted ≠ .bytes chunk := nofun
    rw [records?, records?, start_append interrupts bare, start_append fails bare]
    have interrupted := Reader.takeSource_interrupted (start before).1 (start before).2 after
    exact ⟨interrupted.1, fun _ => interrupted.2⟩

end Csv

/-! ## Both -/

namespace Source

theorem interrupted_not_mem_atOnce (bytes : Bytes) (reached : Option Fault) :
    .interrupted ∉ atOnce bytes reached := by
  cases reached <;> cases bytes <;> simp [atOnce, whole, thenFails]

/-- What is delivered begins with the first read. -/
theorem prefix_delivered {source : Source} {first : Chunk}
    (head : source.head? = some (.bytes first)) : first.bytes <+: source.delivered := by
  obtain ⟨rest, rfl⟩ := List.head?_eq_some_iff.mp head
  exact List.prefix_append first.bytes (delivered rest)

/-- Bytes that arrive in one read are the first read. -/
theorem head?_atOnce {bytes : Bytes} (some : bytes ≠ []) (reached : Option Fault) :
    (atOnce bytes reached).head? = .some (.bytes ⟨bytes, some⟩) := by
  cases bytes with
  | nil => contradiction
  | cons first rest => cases reached <;> rfl

end Source

/-- However bytes are delivered, a run over them and the table of them are what they are when the
bytes arrive in one read.  For a table there must be no interruption, and a first read of at least
four bytes if they begin with a byte order mark.  To the reader of a table an interruption is a
fault, and the reading fails unless the first read has brought the three bytes of a byte order mark
and no fourth: then it has ended before. -/
theorem delivery_irrelevant {source : Source} {bytes : Bytes} {reached : Option Fault}
    (delivers : source.Delivers bytes reached) :
    (∀ sink, Extraction.run source sink = Extraction.run (.atOnce bytes reached) sink) ∧
      (.interrupted ∉ source →
        (Csv.byteOrderMark <+: bytes →
          ∃ first, source.head? = some (.bytes first) ∧ 4 ≤ first.bytes.length) →
        Table.read source = Table.read (.atOnce bytes reached)) ∧
      ∀ before after, source = before ++ .interrupted :: after →
        Table.read source = Table.read (before ++ [.failed .interrupted]) ∧
          (¬Csv.BeginsWithBareMark source → ∃ failure, Table.read source = .error failure) := by
  have sameBytes : source.delivered = (Source.atOnce bytes reached).delivered := by
    rw [delivers.delivered_eq, Source.delivered_atOnce]
  have sameEnd : source.fault? = (Source.atOnce bytes reached).fault? := by
    rw [delivers.fault?_eq, Source.fault?_atOnce]
  refine ⟨Extraction.run_congr sameBytes sameEnd, ?_, ?_⟩
  · intro unbroken longFirst
    have inFirst : Csv.LongFirst source source.delivered := delivers.delivered_eq ▸ longFirst
    have inOnly : Csv.LongFirst (.atOnce bytes reached) (Source.atOnce bytes reached).delivered := by
      intro marked
      rw [Source.delivered_atOnce] at marked
      obtain ⟨first, head, long⟩ := longFirst marked
      have short : first.bytes.length ≤ bytes.length :=
        delivers.delivered_eq ▸ (Source.prefix_delivered head).length_le
      have some : bytes ≠ [] := List.ne_nil_of_length_pos (by omega)
      exact ⟨⟨bytes, some⟩, Source.head?_atOnce some reached, long.trans short⟩
    rw [Table.read, Table.read, Csv.records?_eq_readAll unbroken inFirst,
      Csv.records?_eq_readAll (Source.interrupted_not_mem_atOnce bytes reached) inOnly, sameBytes,
      sameEnd]
  · rintro before after rfl
    obtain ⟨sameRecords, fails⟩ := Csv.records?_interrupted before after
    refine ⟨by rw [Table.read, Table.read, sameRecords], fun notBare => ?_⟩
    obtain ⟨failure, failed⟩ := fails fun bare => notBare (bare.append _)
    exact ⟨failure, by rw [Table.read, failed]; rfl⟩

/-- Rows behind a byte order mark that are cut between two quotes, and a report whose reading is
interrupted inside a marker. -/
theorem delivery_irrelevant_torn_quote :
    let rows := Csv.byteOrderMark ++ Utf8.encode "\"a\"\"\",1\r\n".toList
    let cut : Source := [.bytes ⟨rows.take 6, by decide⟩, .bytes ⟨rows.drop 6, by decide⟩]
    let report := Utf8.encode "@@ Class 7 A\n".toList
    let broken : Source :=
      [.bytes ⟨report.take 3, by decide⟩] ++ .interrupted :: [.bytes ⟨report.drop 3, by decide⟩]
    cut.Delivers rows none ∧ .interrupted ∉ cut ∧
      (∃ first, cut.head? = some (.bytes first) ∧ 4 ≤ first.bytes.length) ∧
      (∃ table, Table.read cut = .ok table ∧ table.toList = [⟨['a', '"'], ['1']⟩]) ∧
      broken.Delivers report none ∧
      (Extraction.run broken {}).sink.received = Utf8.encode "A,7\r\n".toList ∧
      ∃ failure, Table.read broken = .error failure := by
  intro rows cut report broken
  have cutDelivers : cut.Delivers rows none := .reads (.reads .ends)
  have brokenDelivers : broken.Delivers report none := .reads (.interrupted (.reads .ends))
  have unbroken : .interrupted ∉ cut := by decide
  have longFirst : ∃ first, cut.head? = some (.bytes first) ∧ 4 ≤ first.bytes.length :=
    ⟨⟨rows.take 6, by decide⟩, rfl, by decide⟩
  have notBare : ¬Csv.BeginsWithBareMark broken := by
    rintro ⟨first, head, isMark⟩
    cases head
    exact absurd isMark (by decide)
  have sameTable := (delivery_irrelevant cutDelivers).2.1 unbroken fun _ => longFirst
  have sameRun := (delivery_irrelevant brokenDelivers).1 {}
  have fails := ((delivery_irrelevant brokenDelivers).2.2 _ _ rfl).2 notBare
  have read : Csv.records? (.atOnce rows none) = .ok [⟨['a', '"'], ['1']⟩] := rfl
  refine ⟨cutDelivers, unbroken, longFirst, ?_, brokenDelivers, ?_, fails⟩
  · refine ⟨_, by rw [sameTable, Table.read, read]; rfl, ?_⟩
    exact Table.toList_ofRecords _
  · rw [sameRun]
    decide

end ClassSizes
