import ClassSizes.Csv.Reading
import ClassSizes.Proofs.Text.Encoding
import Mathlib.Data.List.Forall2

/-!
# Scanning whole rows

The scanner is fed byte by byte; `scan` feeds it a byte string and collects the rows.  What a field
looks like is said by `Spells`: its bytes between quotes, with the quotes inside doubled, or the
bytes as they are when none of them would be misread.  A row of spelled fields comes out of the
scanner as exactly these fields, wherever the scanner stood.

A reader is a scanner whose rows are checked as they come, so reading is scanning followed by one
pass over the rows.
-/

namespace ClassSizes.Csv

/-- The place after more bytes. -/
def Place.after (place : Place) (bytes : Bytes) : Place :=
  bytes.foldl Place.advance place

@[simp]
theorem Place.after_nil (place : Place) : place.after [] = place :=
  rfl

@[simp]
theorem Place.after_cons (place : Place) (byte : UInt8) (rest : Bytes) :
    place.after (byte :: rest) = (place.advance byte).after rest :=
  rfl

theorem Place.after_append (place : Place) (first second : Bytes) :
    place.after (first ++ second) = (place.after first).after second :=
  List.foldl_append

namespace Scanner

/-- Feed bytes to the scanner, and return the rows that they complete. -/
def scan (scanner : Scanner) : Bytes → Scanner × List RawRow
  | [] => (scanner, [])
  | byte :: rest =>
      let (next, row) := scanner.feed byte
      let (last, rows) := scan next rest
      (last, row.toList ++ rows)

@[simp]
theorem scan_nil (scanner : Scanner) : scanner.scan [] = (scanner, []) :=
  rfl

theorem scan_cons (scanner : Scanner) (byte : UInt8) (rest : Bytes) :
    scanner.scan (byte :: rest) =
      (((scanner.feed byte).1.scan rest).1,
        (scanner.feed byte).2.toList ++ ((scanner.feed byte).1.scan rest).2) :=
  rfl

theorem scan_append (scanner : Scanner) (first second : Bytes) :
    scanner.scan (first ++ second) =
      (((scanner.scan first).1.scan second).1,
        (scanner.scan first).2 ++ ((scanner.scan first).1.scan second).2) := by
  induction first generalizing scanner with
  | nil => rfl
  | cons byte first ih => rw [List.cons_append, scan_cons, ih, scan_cons, List.append_assoc]

/-- A byte that completes no row hands the rest to the next state. -/
theorem scan_cons_of_feed {scanner next : Scanner} {byte : UInt8}
    (fed : scanner.feed byte = (next, none)) (rest : Bytes) :
    scanner.scan (byte :: rest) = next.scan rest := by
  rw [scan_cons, fed]
  rfl

end Scanner

/-! ## Fields -/

/-- Whether a byte stands for itself in a field that is taken as it is. -/
def isPlain (byte : UInt8) : Bool :=
  byte != comma && !endsRow byte

/-- The spellings of a field. -/
inductive Spells (field : Bytes) : Bytes → Prop
  | quoted : Spells field (quote :: field.flatMap quotedAtom ++ [quote])
  | plain : (∀ byte ∈ field, isPlain byte = true) → field.head? ≠ some quote → Spells field field

namespace Scanner

variable {scanner : Scanner}

theorem feedBare_of_isPlain {byte : UInt8} (plain : isPlain byte = true) :
    scanner.feedBare byte = (scanner.keep .bare byte, none) := by
  simp only [isPlain, Bool.and_eq_true, bne_iff_ne, ne_eq, Bool.not_eq_true'] at plain
  simp [feedBare, plain.1, plain.2]

/-- Plain bytes in a field that is taken as it is. -/
theorem scan_bare {bytes : Bytes} (plain : ∀ byte ∈ bytes, isPlain byte = true)
    (bare : scanner.mode = .bare) :
    scanner.scan bytes =
      ({ scanner with
          field := bytes.reverse ++ scanner.field
          here := scanner.here.after bytes }, []) := by
  induction bytes generalizing scanner with
  | nil => rfl
  | cons byte rest ih =>
      have plainRest : ∀ other ∈ rest, isPlain other = true :=
        fun other member => plain other (List.mem_cons_of_mem _ member)
      have fed : scanner.feed byte =
          (({ scanner with here := scanner.here.advance byte } : Scanner).keep .bare byte,
            none) := by
        rw [feed, bare]
        exact feedBare_of_isPlain (plain byte List.mem_cons_self)
      rw [scan_cons_of_feed fed, ih plainRest rfl]
      simp [keep, bare]

/-- Bytes between the quotes of a quoted field, the quotes among them doubled. -/
theorem scan_quoted (bytes : Bytes) (quoted : scanner.mode = .quoted) :
    scanner.scan (bytes.flatMap quotedAtom) =
      ({ scanner with
          field := bytes.reverse ++ scanner.field
          here := scanner.here.after (bytes.flatMap quotedAtom) }, []) := by
  induction bytes generalizing scanner with
  | nil => rfl
  | cons byte rest ih =>
      have kept : scanner.scan (quotedAtom byte) =
          (({ scanner with here := scanner.here.after (quotedAtom byte) } : Scanner).keep .quoted
            byte, []) := by
        unfold quotedAtom
        by_cases isQuote : byte = quote
        · subst isQuote
          simp [scan, feed, quoted, keep]
        · simp [scan, feed, quoted, keep, isQuote]
      rw [List.flatMap_cons, scan_append, kept, ih rfl]
      simp [keep, quoted, Place.after_append]

/-- The scanner stands where a field begins. -/
structure Opens (scanner : Scanner) : Prop where
  mode : scanner.mode = .between ∨ scanner.mode = .fieldStart
  field : scanner.field = []

/-- The scanner has read the last of the fields of a row. -/
structure Holds (scanner : Scanner) (fields : List Bytes) (origin here : Place) : Prop where
  mode_ne : scanner.mode ≠ .quoted
  fields_eq : (scanner.field.reverse :: scanner.fields).reverse = fields
  origin_eq : scanner.origin = origin
  here_eq : scanner.here = here

theorem Opens.feed_quote (opens : scanner.Opens) :
    scanner.feed quote =
      ({ scanner with mode := .quoted, here := scanner.here.advance quote }, none) := by
  rcases opens.mode with mode | mode <;> simp [feed, mode, feedFieldStart, endsRow, quote,
    carriageReturn, newLine]

theorem Opens.feed_plain (opens : scanner.Opens) {byte : UInt8} (plain : isPlain byte = true)
    (notQuote : byte ≠ quote) :
    scanner.feed byte =
      (({ scanner with here := scanner.here.advance byte } : Scanner).keep .bare byte, none) := by
  have notEnd : endsRow byte = false := by
    simp only [isPlain, Bool.and_eq_true, Bool.not_eq_true'] at plain
    exact plain.2
  have started (scanner : Scanner) :
      scanner.feedFieldStart byte = (scanner.keep .bare byte, none) := by
    rw [feedFieldStart, if_neg notQuote, feedBare_of_isPlain plain]
  rcases opens.mode with mode | mode <;> simp [feed, mode, notEnd, started]

/-- However a field is spelled, the scanner reads the field.  Only a field that is spelled by
nothing leaves the scanner between rows. -/
theorem Opens.scan_spelled (opens : scanner.Opens) {field spelled : Bytes}
    (spells : Spells field spelled) :
    ∃ after, scanner.scan spelled = (after, []) ∧
      after.Holds (scanner.fields.reverse ++ [field]) scanner.origin
        (scanner.here.after spelled) ∧
      (after.mode = .between → scanner.mode = .between ∧ spelled = []) := by
  cases spells with
  | quoted =>
      refine ⟨{ scanner with
        mode := .quoteSeen
        field := field.reverse
        here := scanner.here.after (quote :: field.flatMap quotedAtom ++ [quote]) },
        ?_, ⟨?_, ?_, rfl, rfl⟩, ?_⟩
      · rw [List.cons_append, scan_cons_of_feed opens.feed_quote, scan_append,
          scan_quoted field rfl]
        simp [scan, feed, opens.field, Place.after_append]
      all_goals simp
  | plain plain notQuote =>
      cases field with
      | nil =>
          refine ⟨scanner, rfl, ⟨?_, ?_, rfl, rfl⟩, fun between => ⟨between, rfl⟩⟩
          · rcases opens.mode with mode | mode <;> simp [mode]
          · simp [opens.field]
      | cons byte rest =>
          have fed := opens.feed_plain (plain byte List.mem_cons_self)
            (fun isQuote => notQuote (congrArg some isQuote))
          refine ⟨{ scanner with
            mode := .bare
            field := (byte :: rest).reverse
            here := scanner.here.after (byte :: rest) }, ?_, ⟨?_, ?_, rfl, rfl⟩, ?_⟩
          · rw [scan_cons_of_feed fed,
              scan_bare (fun other member => plain other (List.mem_cons_of_mem _ member)) rfl]
            simp [keep, opens.field]
          all_goals simp

/-- Outside quotes a field that has begun goes on as it is. -/
theorem feed_eq_feedBare (notQuoted : scanner.mode ≠ .quoted) {byte : UInt8}
    (notQuote : byte ≠ quote) (inRow : scanner.mode = .between → endsRow byte = false) :
    scanner.feed byte =
      ({ scanner with here := scanner.here.advance byte } : Scanner).feedBare byte := by
  unfold feed
  cases mode : scanner.mode with
  | between => simp [inRow mode, feedFieldStart, notQuote]
  | fieldStart => simp [feedFieldStart, notQuote]
  | bare => rfl
  | quoted => contradiction
  | quoteSeen => simp [notQuote]

/-- A comma completes a field. -/
theorem Holds.feed_comma {fields : List Bytes} {origin here : Place}
    (holds : scanner.Holds fields origin here) :
    scanner.feed comma =
      ({ mode := .fieldStart, fields := fields.reverse, here := here.advance comma, origin },
        none) := by
  have reversed : fields.reverse = scanner.field.reverse :: scanner.fields := by
    rw [← holds.fields_eq, List.reverse_reverse]
  rw [feed_eq_feedBare holds.mode_ne (by decide) fun _ => by decide, reversed,
    ← holds.origin_eq, ← holds.here_eq]
  rfl

/-- A line end completes a row, unless the scanner stands between rows. -/
theorem Holds.feed_end {fields : List Bytes} {origin here : Place}
    (holds : scanner.Holds fields origin here) (begun : scanner.mode ≠ .between) {byte : UInt8}
    (ends : endsRow byte = true) :
    scanner.feed byte =
      let next := { here.advance byte with row := here.row + 1 }
      ({ here := next, origin := next }, some ⟨fields, origin⟩) := by
  have notComma : byte ≠ comma := by
    rintro rfl
    contradiction
  have notQuote : byte ≠ quote := by
    rintro rfl
    contradiction
  rw [feed_eq_feedBare holds.mode_ne notQuote fun between => absurd between begun, feedBare,
    if_neg notComma, if_pos ends, ← holds.fields_eq, ← holds.origin_eq, ← holds.here_eq]
  rfl

/-! ## Rows -/

/-- The scanner stands between rows. -/
structure Rests (scanner : Scanner) : Prop where
  mode : scanner.mode = .between
  field : scanner.field = []
  fields : scanner.fields = []

theorem Rests.opens (rests : scanner.Rests) : scanner.Opens :=
  ⟨Or.inl rests.mode, rests.field⟩

/-- Spelled fields with commas between them are read as these fields. -/
theorem Opens.scan_joinWith (opens : scanner.Opens) {fields spelled : List Bytes}
    (spells : List.Forall₂ Spells fields spelled) (nonempty : fields ≠ [])
    (visible : scanner.mode = .between → spelled ≠ [[]]) :
    ∃ after, scanner.scan (joinWith comma spelled) = (after, []) ∧
      after.Holds (scanner.fields.reverse ++ fields) scanner.origin
        (scanner.here.after (joinWith comma spelled)) ∧
      after.mode ≠ .between := by
  induction spells generalizing scanner with
  | nil => contradiction
  | @cons field first fields rest spellsFirst spellsRest ih =>
      obtain ⟨middle, scanned, holds, between⟩ := opens.scan_spelled spellsFirst
      cases spellsRest with
      | nil =>
          refine ⟨middle, scanned, holds, fun stays => ?_⟩
          obtain ⟨rests, empty⟩ := between stays
          exact visible rests (congrArg (fun spelled => [spelled]) empty)
      | @cons next second fields rest spellsNext spellsRest =>
          have opensNext : Scanner.Opens
              { mode := .fieldStart
                fields := (scanner.fields.reverse ++ [field]).reverse
                here := (scanner.here.after first).advance comma
                origin := scanner.origin } :=
            ⟨Or.inr rfl, rfl⟩
          obtain ⟨after, scannedRest, holdsRest, begun⟩ :=
            ih opensNext (List.cons_ne_nil _ _) (fun between => by contradiction)
          refine ⟨after, ?_, ?_, begun⟩
          · rw [joinWith, scan_append, scanned, scan_cons_of_feed holds.feed_comma, scannedRest]
            rfl
          · simpa [joinWith, Place.after_append] using holdsRest

/-- Between rows, line ends are passed over. -/
theorem Rests.feed_end (rests : scanner.Rests) {byte : UInt8} (ends : endsRow byte = true) :
    scanner.feed byte = ({ scanner with here := scanner.here.advance byte }, none) := by
  simp [feed, rests.mode, ends]

/-- So are any number of them. -/
theorem Rests.scan_blank (rests : scanner.Rests) {bytes : Bytes}
    (blank : ∀ byte ∈ bytes, endsRow byte = true) :
    (scanner.scan bytes).1.Rests ∧ (scanner.scan bytes).2 = [] := by
  induction bytes generalizing scanner with
  | nil => exact ⟨rests, rfl⟩
  | cons byte rest ih =>
      rw [scan_cons_of_feed (rests.feed_end (blank byte List.mem_cons_self))]
      exact ih ⟨rests.mode, rests.field, rests.fields⟩
        fun other member => blank other (List.mem_cons_of_mem _ member)

/-- A row of spelled fields, the line end behind it and any more of them are read as its fields. -/
theorem Rests.scan_ended (rests : scanner.Rests) {fields spelled : List Bytes}
    (spells : List.Forall₂ Spells fields spelled) (nonempty : fields ≠ [])
    (visible : spelled ≠ [[]]) {ending : UInt8} {more : Bytes} (ends : endsRow ending = true)
    (blank : ∀ byte ∈ more, endsRow byte = true) :
    (scanner.scan (joinWith comma spelled ++ ending :: more)).1.Rests ∧
      (scanner.scan (joinWith comma spelled ++ ending :: more)).2 = [⟨fields, scanner.origin⟩] := by
  obtain ⟨last, scanned, holds, begun⟩ :=
    rests.opens.scan_joinWith spells nonempty fun _ => visible
  rw [rests.fields, List.reverse_nil, List.nil_append] at holds
  have completed := holds.feed_end begun ends
  have fresh (next : Place) : Rests { here := next, origin := next } := ⟨rfl, rfl, rfl⟩
  rw [scan_append, scanned, scan_cons, completed]
  exact ⟨((fresh _).scan_blank blank).1, congrArg (_ :: ·) ((fresh _).scan_blank blank).2⟩

/-- A row of spelled fields is read as its fields. -/
theorem Rests.scan_row (rests : scanner.Rests) {fields spelled : List Bytes}
    (spells : List.Forall₂ Spells fields spelled) (nonempty : fields ≠ [])
    (visible : spelled ≠ [[]]) :
    (scanner.scan (joinWith comma spelled ++ rowEnd)).1.Rests ∧
      (scanner.scan (joinWith comma spelled ++ rowEnd)).2 = [⟨fields, scanner.origin⟩] :=
  rests.scan_ended spells nonempty visible rfl (List.forall_mem_singleton.mpr rfl)

end Scanner

/-! ## Reading is scanning and checking -/

/-- The rows of bytes that are read to their end. -/
def Scanner.rowsOf (scanner : Scanner) (bytes : Bytes) : List RawRow :=
  (scanner.scan bytes).2 ++ (scanner.scan bytes).1.finish.toList

theorem Scanner.rowsOf_append (scanner : Scanner) (first second : Bytes) :
    scanner.rowsOf (first ++ second) =
      (scanner.scan first).2 ++ (scanner.scan first).1.rowsOf second := by
  rw [rowsOf, scan_append, List.append_assoc]
  rfl

theorem Reader.takeBytes_eq (scanner : Scanner) (records : List Record) (bytes : Bytes) :
    Reader.takeBytes ⟨scanner, records⟩ bytes =
      ((scanner.scan bytes).2.mapM RawRow.record?).map fun found =>
        ⟨(scanner.scan bytes).1, found.reverse ++ records⟩ := by
  induction bytes generalizing scanner records with
  | nil => rfl
  | cons byte rest ih =>
      rw [Reader.takeBytes, Scanner.scan_cons]
      rcases scanner.feed byte with ⟨next, _ | row⟩
      · exact ih next records
      · simp only [Reader.takeRow, Option.toList_some, List.singleton_append, List.mapM_cons]
        cases row.record? with
        | error failure => rfl
        | ok record =>
            simp only [ih]
            cases (next.scan rest).2.mapM RawRow.record? with
            | error failure => rfl
            | ok found =>
                have taken : (record :: found).reverse ++ records =
                    found.reverse ++ record :: records := by simp
                exact congrArg (fun all => Except.ok (Reader.mk (next.scan rest).1 all)) taken.symm

/-- The rows of bytes that are delivered at once. -/
def rowsOf (bytes : Bytes) : List RawRow :=
  if byteOrderMark.isPrefixOf bytes then
    Scanner.rowsOf (Scanner.skip {} byteOrderMark.length) (bytes.drop byteOrderMark.length)
  else Scanner.rowsOf {} bytes

theorem Reader.takeSource_whole (scanner : Scanner) (bytes : Bytes) :
    Reader.takeSource { scanner } (.whole bytes) =
      (scanner.rowsOf bytes).mapM RawRow.record? := by
  have atEnd : Reader.takeSource { scanner } (.whole bytes) =
      (Reader.takeBytes { scanner } bytes).bind Reader.takeEnd := by
    cases bytes with
    | nil => rfl
    | cons first rest =>
        rw [Source.whole, Reader.takeSource]
        cases Reader.takeBytes { scanner } (first :: rest) <;> rfl
  rw [atEnd, Reader.takeBytes_eq, Scanner.rowsOf, List.mapM_append]
  cases (scanner.scan bytes).2.mapM RawRow.record? with
  | error failure => rfl
  | ok found =>
      simp only [Except.map, Except.bind, Reader.takeEnd, Reader.takeRow]
      cases (scanner.scan bytes).1.finish with
      | none => simp [Bind.bind, Except.bind, pure, Except.pure]
      | some row =>
          cases result : row.record? <;>
            simp [Bind.bind, Except.bind, pure, Except.pure, result]

theorem behindMark_nil (left : Bytes) : behindMark left [] = .whole left := by
  cases left <;> rfl

/-- Reading bytes that are delivered at once is checking their rows. -/
theorem records?_whole (bytes : Bytes) :
    records? (.whole bytes) = (rowsOf bytes).mapM RawRow.record? := by
  cases bytes with
  | nil => exact Reader.takeSource_whole {} []
  | cons first rest =>
      rw [records?, Source.whole, start, rowsOf]
      by_cases marked : byteOrderMark.isPrefixOf (first :: rest)
      · simp only [if_pos marked, behindMark_nil]
        exact Reader.takeSource_whole _ _
      · simp only [if_neg marked]
        exact Reader.takeSource_whole {} (first :: rest)

end ClassSizes.Csv
