import ClassSizes.Proofs.Csv.Joining

/-!
# Where a row stands

The place of a row is where the scanner began to look for it, and its line counts line feeds only.
A row begins later than that: behind the line feed of a `CR LF` and behind blank lines.  `rowStarts`
finds the bytes in front of every row, and `Sought` says which part of them the place of the row has
seen.  The line of a row that does not have two fields is therefore never too high, and it is right
if and only if the row stands directly behind what ended the row in front of it and every carriage
return before it belongs to a `CR LF`.
-/

namespace ClassSizes

namespace Csv

/-! ## Line ends -/

/-- How many line ends there are in bytes: `LF`, `CR LF` and a lone `CR` count as one each. -/
def lineEnds : Bytes → Nat
  | [] => 0
  | byte :: rest =>
      if byte = newLine then lineEnds rest + 1
      else if byte = carriageReturn ∧ rest.head? ≠ some newLine then lineEnds rest + 1
      else lineEnds rest

/-- How many carriage returns no line feed follows. -/
def loneReturns : Bytes → Nat
  | [] => 0
  | byte :: rest =>
      if byte = carriageReturn ∧ rest.head? ≠ some newLine then loneReturns rest + 1
      else loneReturns rest

theorem newLine_ne_carriageReturn : newLine ≠ carriageReturn := by
  decide

theorem lineEnds_eq (bytes : Bytes) : lineEnds bytes = bytes.count newLine + loneReturns bytes := by
  induction bytes with
  | nil => rfl
  | cons byte rest ih =>
      rw [lineEnds, loneReturns, ih]
      by_cases feed : byte = newLine
      · subst feed
        rw [if_pos rfl, if_neg fun lone => newLine_ne_carriageReturn lone.1, List.count_cons_self]
        omega
      · rw [if_neg feed, List.count_cons_of_ne feed]
        split <;> omega

/-- A carriage return at the very end is a lone one. -/
theorem loneReturns_pos_of_concat (body : Bytes) : 0 < loneReturns (body ++ [carriageReturn]) := by
  induction body with
  | nil => decide
  | cons byte rest ih =>
      rw [List.cons_append, loneReturns]
      split <;> omega

theorem eq_of_endsRow {byte : UInt8} (ends : endsRow byte = true) :
    byte = carriageReturn ∨ byte = newLine := by
  simpa [endsRow] using ends

/-- Line ends behind others are more line ends, unless they complete a `CR LF`. -/
theorem eq_nil_of_count_eq_zero {read skipped : Bytes}
    (ends : ∀ byte ∈ skipped, endsRow byte = true) (noFeed : skipped.count newLine = 0)
    (noReturn : loneReturns (read ++ skipped) = 0) : skipped = [] := by
  rcases List.eq_nil_or_concat' skipped with empty | ⟨front, last, rfl⟩
  · exact empty
  · have member : last ∈ front ++ [last] := List.mem_append_right _ List.mem_cons_self
    rcases eq_of_endsRow (ends last member) with rfl | rfl
    · have lone := loneReturns_pos_of_concat (read ++ front)
      rw [List.append_assoc, noReturn] at lone
      contradiction
    · exact absurd member (List.count_eq_zero.mp noFeed)

/-! ## Where rows begin -/

/-- What stands in front of each row of bytes: a row begins with a byte that is read between rows
and is not a line end. -/
def Scanner.starts (scanner : Scanner) (front : Bytes) : Bytes → List Bytes
  | [] => []
  | byte :: rest =>
      let later := (scanner.feed byte).1.starts (front ++ [byte]) rest
      if scanner.mode = .between ∧ endsRow byte = false then front :: later else later

/-- What stands in front of each row of bytes that are delivered at once. -/
def rowStarts (bytes : Bytes) : List Bytes :=
  if byteOrderMark.isPrefixOf bytes then
    Scanner.starts (Scanner.skip {} byteOrderMark.length) byteOrderMark
      (bytes.drop byteOrderMark.length)
  else Scanner.starts {} [] bytes

/-- The search for a row that begins behind `read ++ skipped` began behind `read`: at the front of
the bytes, or one byte after the row before it began to end. -/
structure Sought (place : Place) (read skipped : Bytes) : Prop where
  skipped_ends : ∀ byte ∈ skipped, endsRow byte = true
  line_eq : place.line = 1 + read.count newLine
  read_of_first : place.row = 0 → read = [] ∨ read = byteOrderMark
  read_of_later : place.row ≠ 0 → ∃ body last ending, read = body ++ [last, ending] ∧
    endsRow last = false ∧ endsRow ending = true

/-- A row that begins behind `start` has been looked for somewhere in front of it. -/
def BeginsBehind (row : RawRow) (start : Bytes) : Prop :=
  ∃ read skipped, start = read ++ skipped ∧ Sought row.place read skipped

namespace Scanner

/-- What a scanner makes of a byte, and when: it passes over a line end between rows, takes the
byte into a row that has begun or begins with it, or completes a row that has begun. -/
inductive Moves (scanner : Scanner) (byte : UInt8) : Scanner × Option RawRow → Prop
  | passes : scanner.mode = .between → endsRow byte = true →
      Moves scanner byte ({ scanner with mode := .between, here := scanner.here.advance byte }, none)
  | takes {mode : Mode} {field : Bytes} {fields : List Bytes} :
      mode ≠ .between → (scanner.mode = .between → endsRow byte = false) →
      (mode ≠ .quoted → endsRow byte = false) →
      Moves scanner byte
        ({ scanner with mode, field, fields, here := scanner.here.advance byte }, none)
  | ends : scanner.mode ≠ .between → scanner.mode ≠ .quoted → endsRow byte = true →
      Moves scanner byte (endRow { scanner with here := scanner.here.advance byte })

variable {scanner : Scanner}

theorem moves_feedBare {byte : UInt8} (notQuoted : scanner.mode ≠ .quoted)
    (begins : scanner.mode = .between → endsRow byte = false) :
    scanner.Moves byte (feedBare { scanner with here := scanner.here.advance byte } byte) := by
  unfold feedBare
  split
  · next isComma =>
    subst isComma
    exact .takes nofun (fun _ => rfl) (fun _ => rfl)
  · split
    · next ends =>
      refine .ends ?_ notQuoted ends
      intro between
      rw [begins between] at ends
      contradiction
    · next inRow =>
      rw [Bool.not_eq_true] at inRow
      exact .takes nofun (fun _ => inRow) (fun _ => inRow)

theorem moves_feedFieldStart {byte : UInt8} (notQuoted : scanner.mode ≠ .quoted)
    (begins : scanner.mode = .between → endsRow byte = false) :
    scanner.Moves byte
      (feedFieldStart { scanner with here := scanner.here.advance byte } byte) := by
  unfold feedFieldStart
  split
  · next isQuote =>
    subst isQuote
    exact .takes nofun (fun _ => rfl) (fun _ => rfl)
  · exact moves_feedBare notQuoted begins

theorem moves_feed (scanner : Scanner) (byte : UInt8) : scanner.Moves byte (scanner.feed byte) := by
  unfold feed
  cases mode : scanner.mode with
  | between =>
      simp only
      split
      · next ends => exact .passes mode ends
      · next inRow =>
        rw [Bool.not_eq_true] at inRow
        exact moves_feedFieldStart (by simp [mode]) fun _ => inRow
  | fieldStart => exact moves_feedFieldStart (by simp [mode]) (by simp [mode])
  | bare => exact moves_feedBare (by simp [mode]) (by simp [mode])
  | quoted =>
      simp only
      split
      · next isQuote =>
        subst isQuote
        exact .takes nofun (fun _ => rfl) (fun _ => rfl)
      · exact .takes nofun (by simp [mode]) (by simp)
  | quoteSeen =>
      simp only
      split
      · next isQuote =>
        subst isQuote
        exact .takes nofun (fun _ => rfl) (fun _ => rfl)
      · exact moves_feedBare (by simp [mode]) (by simp [mode])

theorem rowsOf_cons (scanner : Scanner) (byte : UInt8) (rest : Bytes) :
    scanner.rowsOf (byte :: rest) =
      (scanner.feed byte).2.toList ++ (scanner.feed byte).1.rowsOf rest := by
  rw [rowsOf, scan_cons, List.append_assoc]
  rfl

/-- The place of a row is where the scanner began to look for it. -/
theorem place_of_mem_feed (scanner : Scanner) (byte : UInt8) :
    ∀ row ∈ (scanner.feed byte).2, row.place = scanner.origin := by
  have moves := scanner.moves_feed byte
  generalize scanner.feed byte = outcome at moves ⊢
  intro row found
  cases moves with
  | passes | takes => contradiction
  | ends =>
      cases found
      rfl

/-- The place of a row counts the rows in front of it. -/
theorem HasFound.place_row {count : Nat} (found : scanner.HasFound count) {bytes : Bytes}
    {earlier later : List RawRow} {row : RawRow}
    (split : scanner.rowsOf bytes = earlier ++ row :: later) :
    row.place.row = count + earlier.length := by
  induction bytes generalizing scanner count earlier with
  | nil =>
      have only : scanner.finish.toList = earlier ++ row :: later := split
      unfold finish at only
      split at only
      · simp at only
      · cases earlier with
        | nil =>
            cases only
            exact found.origin_row
        | cons => simp at only
  | cons byte rest ih =>
      rw [rowsOf_cons] at split
      have next := found.feed byte
      have place := place_of_mem_feed scanner byte
      generalize scanner.feed byte = outcome at split next place
      rcases outcome with ⟨after, _ | completed⟩
      · exact ih next split
      · cases earlier with
        | nil =>
            cases (List.cons.inj split).1
            rw [place _ rfl]
            exact found.origin_row
        | cons first earlier =>
            rw [ih next (List.cons.inj split).2, List.length_cons]
            exact Nat.add_right_comm _ _ _

/-- A row starts with a byte that is not a line end. -/
theorem exists_of_mem_starts {front bytes start : Bytes}
    (member : start ∈ scanner.starts front bytes) :
    ∃ byte rest, front ++ bytes = start ++ byte :: rest ∧ endsRow byte = false := by
  induction bytes generalizing scanner front with
  | nil => contradiction
  | cons byte rest ih =>
      have later (member : start ∈ (scanner.feed byte).1.starts (front ++ [byte]) rest) :
          ∃ other after, front ++ byte :: rest = start ++ other :: after ∧
            endsRow other = false := by
        rw [List.append_cons]
        exact ih member
      rw [starts] at member
      split at member
      · next begins =>
        rcases List.mem_cons.mp member with rfl | member
        · exact ⟨byte, rest, rfl, begins.2⟩
        · exact later member
      · exact later member

/-! ## What the place of a row has seen -/

/-- A scanner that has read `front`; the row under way, or the next one, begins behind `start`. -/
structure Tracks (scanner : Scanner) (front start : Bytes) : Prop where
  here_line : scanner.here.line = 1 + front.count newLine
  start_eq : scanner.mode = .between → start = front
  sought : ∃ read skipped, start = read ++ skipped ∧ Sought scanner.origin read skipped
  last_eq : scanner.mode ≠ .between → scanner.mode ≠ .quoted →
    ∃ body last, front = body ++ [last] ∧ endsRow last = false

/-- The row under way, if one has begun. -/
def begun (scanner : Scanner) (start : Bytes) : List Bytes :=
  if scanner.mode = .between then [] else [start]

namespace Tracks

variable {front start : Bytes} {byte : UInt8}

theorem line_advance (tracks : scanner.Tracks front start) (byte : UInt8) :
    (scanner.here.advance byte).line = 1 + (front ++ [byte]).count newLine := by
  rw [Place.advance, List.count_append, ← Nat.add_assoc, ← tracks.here_line]
  by_cases feed : byte = newLine
  · simp [feed]
  · simp [feed]

/-- A line end between rows is skipped. -/
theorem passes (tracks : scanner.Tracks front start) (between : scanner.mode = .between)
    (ends : endsRow byte = true) :
    Tracks { scanner with mode := .between, here := scanner.here.advance byte }
      (front ++ [byte]) (front ++ [byte]) where
  here_line := tracks.line_advance byte
  start_eq := fun _ => rfl
  sought := by
    rcases tracks.sought with ⟨read, skipped, split, sought⟩
    refine ⟨read, skipped ++ [byte], ?_, { sought with skipped_ends := ?_ }⟩
    · rw [← tracks.start_eq between, split, List.append_assoc]
    · intro other member
      rcases List.mem_append.mp member with before | last
      · exact sought.skipped_ends other before
      · rwa [List.mem_singleton.mp last]
  last_eq := fun begun => absurd rfl begun

/-- A byte of a row does not change where the row has begun. -/
theorem takes (tracks : scanner.Tracks front start) {mode : Mode} (begun : mode ≠ .between)
    (inRow : mode ≠ .quoted → endsRow byte = false) (field : Bytes) (fields : List Bytes) :
    Tracks { scanner with mode, field, fields, here := scanner.here.advance byte }
      (front ++ [byte]) start where
  here_line := tracks.line_advance byte
  start_eq := fun between => absurd between begun
  sought := tracks.sought
  last_eq := fun _ notQuoted => ⟨front, byte, rfl, inRow notQuoted⟩

/-- The search for the next row begins behind the byte that completes a row. -/
theorem ends (tracks : scanner.Tracks front start) (begun : scanner.mode ≠ .between)
    (notQuoted : scanner.mode ≠ .quoted) (ends : endsRow byte = true) :
    Tracks (endRow { scanner with here := scanner.here.advance byte }).1
      (front ++ [byte]) (front ++ [byte]) where
  here_line := tracks.line_advance byte
  start_eq := fun _ => rfl
  sought := by
    rcases tracks.last_eq begun notQuoted with ⟨body, last, rfl, inRow⟩
    refine ⟨body ++ [last] ++ [byte], [], (List.append_nil _).symm, nofun,
      tracks.line_advance byte, nofun, fun _ => ⟨body, last, byte, ?_, inRow, ends⟩⟩
    rw [List.append_assoc]
    rfl
  last_eq := fun begun => absurd rfl begun

/-- Every row begins behind the start that is found for it: the row under way behind the start that
is tracked, and each later row behind its own. -/
theorem forall₂_starts (tracks : scanner.Tracks front start) (bytes : Bytes) :
    List.Forall₂ BeginsBehind (scanner.rowsOf bytes)
      (scanner.begun start ++ scanner.starts front bytes) := by
  induction bytes generalizing scanner front start with
  | nil =>
      by_cases between : scanner.mode = .between
      · simp [rowsOf, finish, begun, starts, between]
      · have row : BeginsBehind scanner.currentRow start := tracks.sought
        simpa [rowsOf, finish, begun, starts, between] using row
  | cons byte rest ih =>
      rw [rowsOf_cons, starts]
      have moves := scanner.moves_feed byte
      generalize scanner.feed byte = outcome at moves ⊢
      cases moves with
      | passes between ends =>
          have later := ih (tracks.passes between ends)
          simpa [begun, between, ends] using later
      | @takes mode field fields begins inRow quoted =>
          have later := ih (tracks.takes begins quoted field fields)
          by_cases between : scanner.mode = .between
          · simpa [begun, between, begins, inRow between, tracks.start_eq between] using later
          · simpa [begun, between, begins] using later
      | ends started notQuoted ends =>
          have row : BeginsBehind { scanner with here := scanner.here.advance byte }.currentRow
              start := tracks.sought
          have later := ih (tracks.ends started notQuoted ends)
          simpa [begun, started, endRow] using List.Forall₂.cons row later

end Tracks

end Scanner

/-! ## The line of a bad row -/

/-- Every row begins behind its own start. -/
theorem forall₂_rowStarts (bytes : Bytes) :
    List.Forall₂ BeginsBehind (rowsOf bytes) (rowStarts bytes) := by
  unfold rowsOf rowStarts
  split
  · have tracks : Scanner.Tracks (Scanner.skip {} byteOrderMark.length) byteOrderMark
        byteOrderMark :=
      { here_line := rfl
        start_eq := fun _ => rfl
        sought := ⟨byteOrderMark, [], rfl, nofun, rfl, fun _ => Or.inr rfl, nofun⟩
        last_eq := fun begun => absurd rfl begun }
    exact tracks.forall₂_starts _
  · have tracks : Scanner.Tracks {} [] [] :=
      { here_line := rfl
        start_eq := fun _ => rfl
        sought := ⟨[], [], rfl, nofun, rfl, fun _ => Or.inl rfl, nofun⟩
        last_eq := fun begun => absurd rfl begun }
    exact tracks.forall₂_starts _

theorem place_row_of_rowsOf {bytes : Bytes} {earlier later : List RawRow} {row : RawRow}
    (split : rowsOf bytes = earlier ++ row :: later) : row.place.row = earlier.length := by
  rw [← Nat.zero_add earlier.length]
  unfold rowsOf at split
  split at split
  · exact (Scanner.HasFound.fresh rfl).place_row split
  · exact (Scanner.HasFound.fresh rfl).place_row split

theorem exists_of_mem_rowStarts {bytes start : Bytes} (member : start ∈ rowStarts bytes) :
    ∃ byte rest, bytes = start ++ byte :: rest ∧ endsRow byte = false := by
  unfold rowStarts at member
  split at member
  · next marked =>
    rcases List.isPrefixOf_iff_prefix.mp marked with ⟨rest, rfl⟩
    rw [List.drop_left] at member
    exact Scanner.exists_of_mem_starts member
  · exact Scanner.exists_of_mem_starts member

theorem exists_of_forall₂_append {relation : RawRow → Bytes → Prop} {earlier later : List RawRow}
    {row : RawRow} {starts : List Bytes}
    (related : List.Forall₂ relation (earlier ++ row :: later) starts) :
    ∃ start, starts[earlier.length]? = some start ∧ relation row start := by
  induction earlier generalizing starts with
  | nil =>
      cases related with
      | cons first _ => exact ⟨_, rfl, first⟩
  | cons other earlier ih =>
      cases related with
      | cons _ rest =>
          rcases ih rest with ⟨start, found, first⟩
          exact ⟨start, found, first⟩

/-- Rows are refused at the first of them that is. -/
theorem exists_of_mapM_record? {rows : List RawRow} {failure : Failure}
    (refused : rows.mapM RawRow.record? = .error failure) :
    ∃ earlier row later, rows = earlier ++ row :: later ∧
      (∀ good ∈ earlier, ∃ record, good.record? = .ok record) ∧ row.record? = .error failure := by
  induction rows with
  | nil => contradiction
  | cons row rows ih =>
      rw [List.mapM_cons] at refused
      cases first : row.record? with
      | error other =>
          rw [first] at refused
          cases refused
          exact ⟨[], row, rows, rfl, nofun, first⟩
      | ok record =>
          rw [first] at refused
          cases rest : rows.mapM RawRow.record? with
          | ok records =>
              rw [rest] at refused
              contradiction
          | error other =>
              rw [rest] at refused
              cases refused
              rcases ih rest with ⟨earlier, bad, later, rfl, good, refused⟩
              exact ⟨row :: earlier, bad, later, rfl,
                List.forall_mem_cons.mpr ⟨⟨record, first⟩, good⟩, refused⟩

theorem RawRow.of_record?_eq_invalidRecord {row : RawRow} {line columns : Nat}
    (refused : row.record? = .error (.invalidRecord line columns)) :
    row.place.line = line ∧ row.fields.length = columns ∧ columns ≠ 2 := by
  unfold RawRow.record? at refused
  split at refused
  · cases refused
  · split at refused
    · cases refused
    · next notTwo =>
      cases refused
      refine ⟨rfl, rfl, fun two => ?_⟩
      rcases List.length_eq_two.mp two with ⟨name, size, fields⟩
      exact notTwo name size fields

/-- The line that is reported for a row without two fields is that of the place where the search
for the row began: it counts the line feeds up to the byte with which the row in front began to
end.  It is never higher than the line the row is on, and it is that line if and only if the row
begins where the search for it began and every carriage return before it belongs to a `CR LF`. -/
theorem line_of_invalidRecord {bytes : Bytes} {line columns : Nat}
    (failed : Table.read (.whole bytes) = .error (.invalidRecord line columns)) :
    ∃ earlier row later read skipped,
      rowsOf bytes = earlier ++ row :: later ∧
      (∀ good ∈ earlier, ∃ record, good.record? = .ok record) ∧
      row.fields.length = columns ∧ columns ≠ 2 ∧
      (rowStarts bytes)[earlier.length]? = some (read ++ skipped) ∧
      (∃ byte rest, bytes = read ++ skipped ++ byte :: rest ∧ endsRow byte = false) ∧
      (∀ byte ∈ skipped, endsRow byte = true) ∧
      (earlier = [] → read = [] ∨ read = byteOrderMark) ∧
      (earlier ≠ [] → ∃ body last ending, read = body ++ [last, ending] ∧
        endsRow last = false ∧ endsRow ending = true) ∧
      line = 1 + read.count newLine ∧
      line ≤ 1 + lineEnds (read ++ skipped) ∧
      (line = 1 + lineEnds (read ++ skipped) ↔ skipped = [] ∧ loneReturns read = 0) := by
  have refused : (rowsOf bytes).mapM RawRow.record? = .error (.invalidRecord line columns) := by
    rw [mapM_record?_rowsOf, failed]
    rfl
  rcases exists_of_mapM_record? refused with ⟨earlier, row, later, split, good, bad⟩
  rcases RawRow.of_record?_eq_invalidRecord bad with ⟨rfl, length, notTwo⟩
  have begins := forall₂_rowStarts bytes
  rw [split] at begins
  rcases exists_of_forall₂_append begins with ⟨_, start, read, skipped, rfl, sought⟩
  have index := place_row_of_rowsOf split
  have counted : lineEnds (read ++ skipped) =
      read.count newLine + skipped.count newLine + loneReturns (read ++ skipped) := by
    rw [lineEnds_eq, List.count_append]
  refine ⟨earlier, row, later, read, skipped, split, good, length, notTwo, start,
    exists_of_mem_rowStarts (List.mem_of_getElem? start), sought.skipped_ends, ?_, ?_,
    sought.line_eq, ?_, ?_⟩
  · rintro rfl
    exact sought.read_of_first index
  · intro some_row
    apply sought.read_of_later
    rw [index]
    exact fun none => some_row (List.length_eq_zero_iff.mp none)
  · rw [sought.line_eq, counted]
    omega
  · rw [sought.line_eq, counted]
    constructor
    · intro right
      have noFeed : skipped.count newLine = 0 := by omega
      have noReturn : loneReturns (read ++ skipped) = 0 := by omega
      have nothing : skipped = [] := eq_nil_of_count_eq_zero sought.skipped_ends noFeed noReturn
      subst nothing
      rw [List.append_nil] at noReturn
      exact ⟨rfl, noReturn⟩
    · rintro ⟨rfl, noReturn⟩
      rw [List.append_nil, noReturn]
      rfl

/-- A row behind a `CR LF` between quotes and a row end that is a line feed has the right line. -/
theorem line_of_invalidRecord_quoted_line_end :
    let bytes := Utf8.encode "\"A\r\n\",1\nB".toList
    Table.read (.whole bytes) = .error (.invalidRecord 3 1) ∧
      ∃ front, (rowStarts bytes)[1]? = some front ∧ 3 = 1 + lineEnds front ∧
        loneReturns front = 0 := by
  intro bytes
  have failed : Table.read (.whole bytes) = .error (.invalidRecord 3 1) := rfl
  rcases line_of_invalidRecord failed with
    ⟨earlier, row, later, read, skipped, split, _, length, _, start, _, _, _, _, _, _, right⟩
  have rows : (rowsOf bytes).map (·.fields.length) = [2, 1] := by decide
  have index : earlier.length = 1 := by
    rw [split, List.map_append, List.map_cons, length] at rows
    match earlier with
    | [] => cases rows
    | [_] => rfl
    | _ :: _ :: _ => simp at rows
  rw [index] at start
  have front : (rowStarts bytes)[1]? = some (Utf8.encode "\"A\r\n\",1\n".toList) := by decide
  have same := Option.some.inj (start.symm.trans front)
  have line : 3 = 1 + lineEnds (read ++ skipped) := by
    rw [same]
    decide
  rcases right.mp line with ⟨rfl, noReturn⟩
  rw [List.append_nil] at start line
  exact ⟨failed, read, start, line, noReturn⟩

/-- The bad row is on the second line and the first one is reported, behind a `CR LF`, behind a blank
line, and behind a lone carriage return. -/
theorem line_of_invalidRecord_lags :
    let second (bytes : Bytes) := (rowStarts bytes).getLast?.map fun front => 1 + lineEnds front
    let paired := Utf8.encode "A,1\r\nB\r\n".toList
    let blank := Utf8.encode "\nB\n".toList
    let lone := Utf8.encode "A,1\rB\r".toList
    (Table.read (.whole paired) = .error (.invalidRecord 1 1) ∧ second paired = some 2) ∧
      (Table.read (.whole blank) = .error (.invalidRecord 1 1) ∧ second blank = some 2) ∧
      Table.read (.whole lone) = .error (.invalidRecord 1 1) ∧ second lone = some 2 := by
  refine ⟨⟨rfl, ?_⟩, ⟨rfl, ?_⟩, rfl, ?_⟩ <;> decide

end Csv

end ClassSizes
