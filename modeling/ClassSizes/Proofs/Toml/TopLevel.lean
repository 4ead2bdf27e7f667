import ClassSizes.Toml.Document

/-!
# Strings at the top level of a document

The strings at the top level of a document are those of the pairs before its first header whose keys
have one part.  Every other statement makes tables or goes into one, and where there is a table
there never is a string.
-/

namespace ClassSizes.Toml

namespace Entries

variable {entries after : Entries} {key other : Text} {item : Item}

theorem item?_cons (entry : Text × Item) :
    item? (entry :: entries) key =
      if entry.1 = key then some entry.2 else entries.item? key := by
  by_cases same : entry.1 = key <;> simp [item?, same]

theorem item?_add :
    (entries.add key item).item? other =
      (entries.item? other).or (if key = other then some item else none) := by
  induction entries with
  | nil => exact item?_cons (key, item)
  | cons entry rest ih =>
      rw [add, List.cons_append, item?_cons, item?_cons, ← add, ih]
      split <;> rfl

theorem item?_replace_self :
    (entries.replace key item).item? key = (entries.item? key).map fun _ => item := by
  induction entries with
  | nil => rfl
  | cons entry rest ih =>
      rw [replace, List.map_cons, item?_cons, item?_cons, ← replace, ih]
      by_cases same : entry.1 = key <;> simp [same]

theorem item?_replace_of_ne (different : other ≠ key) :
    (entries.replace key item).item? other = entries.item? other := by
  induction entries with
  | nil => rfl
  | cons entry rest ih =>
      rw [replace, List.map_cons, item?_cons, item?_cons, ← replace, ih]
      by_cases same : entry.1 = key
      · simp [same, Ne.symm different]
      · simp [same]

/-! ## What a statement changes -/

/-- Two tables have the same strings. -/
def SameStrings (before after : Entries) : Prop :=
  ∀ key text : Text,
    after.item? key = some (.string text) ↔ before.item? key = some (.string text)

theorem SameStrings.add (absent : entries.item? key = none) (other : ∀ text, item ≠ .string text) :
    SameStrings entries (entries.add key item) := by
  intro found text
  rw [item?_add]
  by_cases same : key = found
  · subst same
    simp [absent, other]
  · simp [same]

theorem SameStrings.replace {old : Item} (present : entries.item? key = some old)
    (wasOther : ∀ text, old ≠ .string text) (other : ∀ text, item ≠ .string text) :
    SameStrings entries (entries.replace key item) := by
  intro found text
  by_cases same : found = key
  · subst same
    simp [item?_replace_self, present, wasOther, other]
  · rw [item?_replace_of_ne same]

/-- A path goes into a table, unless it is empty. -/
theorem sameStrings_descend {dotted : Bool} {change : Origin → Entries → Option Entries}
    {path : List Text} {origin : Origin}
    (here : path = [] → change origin entries = some after → SameStrings entries after)
    (descended : descend dotted change path origin entries = some after) :
    SameStrings entries after := by
  cases path with
  | nil => exact here rfl descended
  | cons key path =>
      rw [descend] at descended
      split at descended
      · next absent =>
        rcases Option.bind_eq_some_iff.mp descended with ⟨inner, _, isAfter⟩
        cases isAfter
        exact .add absent nofun
      · next present =>
        split at descended
        · contradiction
        · rcases Option.bind_eq_some_iff.mp descended with ⟨inner, _, isAfter⟩
          cases isAfter
          exact .replace present nofun nofun
      · next present =>
        split at descended
        · rcases Option.bind_eq_some_iff.mp descended with ⟨inner, _, isAfter⟩
          cases isAfter
          exact .replace present nofun nofun
        · contradiction
      · contradiction

/-- A header states a table, and is not empty. -/
theorem sameStrings_openTable {header : List Text}
    (opened : entries.openTable header = some after) :
    header ≠ [] ∧ SameStrings entries after := by
  unfold openTable at opened
  split at opened
  · contradiction
  · next last isLast =>
    refine ⟨List.ne_nil_of_mem (List.mem_of_getLast? isLast), ?_⟩
    apply sameStrings_descend _ opened
    intro _ changed
    split at changed
    · next absent =>
      cases changed
      exact .add absent nofun
    · next present =>
      cases changed
      exact .replace present nofun nofun
    · contradiction

/-- A header in double brackets adds a table, and is not empty. -/
theorem sameStrings_openElement {header : List Text}
    (opened : entries.openElement header = some after) :
    header ≠ [] ∧ SameStrings entries after := by
  unfold openElement at opened
  split at opened
  · contradiction
  · next last isLast =>
    refine ⟨List.ne_nil_of_mem (List.mem_of_getLast? isLast), ?_⟩
    apply sameStrings_descend _ opened
    intro _ changed
    split at changed
    · next absent =>
      cases changed
      exact .add absent nofun
    · next present =>
      cases changed
      exact .replace present nofun nofun
    · contradiction

/-- A pair below a header goes into its table. -/
theorem sameStrings_assignBelow {header path : List Text} (below : header ≠ [])
    (assigned : entries.assignBelow header path item = some after) :
    SameStrings entries after := by
  apply sameStrings_descend _ assigned
  exact fun top => absurd top below

/-- A pair above all headers adds its item if its key has one part, and goes into a table
otherwise. -/
theorem string_assign_iff {path : List Text}
    (assigned : assign path item .stated entries = some after) (text : Text) :
    after.item? other = some (.string text) ↔
      entries.item? other = some (.string text) ∨ path = [other] ∧ item = .string text := by
  unfold assign at assigned
  split at assigned
  · contradiction
  · next last isLast =>
    obtain ⟨front, rfl⟩ := List.getLast?_eq_some_iff.mp isLast
    rw [List.dropLast_concat] at assigned
    by_cases top : front = []
    · subst top
      rw [descend, if_neg (by decide)] at assigned
      split at assigned
      · contradiction
      · next absent =>
        cases assigned
        rw [item?_add]
        by_cases same : last = other
        · subst same
          simp [absent]
        · simp [same]
    · have same : SameStrings entries after :=
        sameStrings_descend (fun here => absurd here top) assigned
      have longer : front ++ [last] ≠ [other] := fun short =>
        top (List.eq_nil_of_length_eq_zero (by simpa using congrArg List.length short))
      simpa [longer] using same other text

end Entries

/-! ## What all statements make -/

/-- Whether a statement is a pair. -/
def Statement.isPair : Statement → Bool
  | .pair .. => true
  | .table _ | .element _ => false

/-- The statements of a document before its first header. -/
def aboveHeaders (statements : List Statement) : List Statement :=
  statements.takeWhile (·.isPair)

namespace Growth

variable {growth next grown : Growth} {key text : Text}

/-- How a statement is taken: a pair above all headers, or one that leaves the strings at the top
level as they are. -/
theorem take_cases {statement : Statement} (taken : growth.take statement = some next) :
    (∃ path item, statement = .pair path item ∧ growth.header = [] ∧ next.header = [] ∧
      ∀ key text, next.entries.item? key = some (.string text) ↔
        growth.entries.item? key = some (.string text) ∨
          path = [key] ∧ item = .string text) ∨
    (statement.isPair = true → growth.header ≠ []) ∧ next.header ≠ [] ∧
      growth.entries.SameStrings next.entries := by
  cases statement with
  | table header =>
      rcases Option.map_eq_some_iff.mp taken with ⟨after, opened, rfl⟩
      rcases Entries.sameStrings_openTable opened with ⟨named, same⟩
      exact .inr ⟨nofun, named, same⟩
  | element header =>
      rcases Option.map_eq_some_iff.mp taken with ⟨after, opened, rfl⟩
      rcases Entries.sameStrings_openElement opened with ⟨named, same⟩
      exact .inr ⟨nofun, named, same⟩
  | pair path item =>
      rcases Option.map_eq_some_iff.mp taken with ⟨after, assigned, rfl⟩
      by_cases top : growth.header = []
      · rw [top] at assigned
        exact .inl ⟨path, item, rfl, top, top, fun key => Entries.string_assign_iff assigned⟩
      · exact .inr ⟨fun _ => top, top, Entries.sameStrings_assignBelow top assigned⟩

theorem exists_of_foldlM_cons {statement : Statement} {statements : List Statement}
    (grows : (statement :: statements).foldlM take growth = some grown) :
    ∃ next, growth.take statement = some next ∧ statements.foldlM take next = some grown := by
  rw [List.foldlM_cons] at grows
  exact Option.bind_eq_some_iff.mp grows

/-- Below a header the top level gets no more strings. -/
theorem sameStrings_of_below {statements : List Statement} (below : growth.header ≠ [])
    (grows : statements.foldlM take growth = some grown) :
    growth.entries.SameStrings grown.entries := by
  induction statements generalizing growth with
  | nil =>
      cases grows
      exact fun _ _ => Iff.rfl
  | cons statement statements ih =>
      rcases exists_of_foldlM_cons grows with ⟨next, taken, later⟩
      rcases take_cases taken with ⟨_, _, _, top, _⟩ | ⟨_, stillBelow, same⟩
      · contradiction
      · exact fun key text => (ih stillBelow later key text).trans (same key text)

theorem string_iff {statements : List Statement} (top : growth.header = [])
    (grows : statements.foldlM take growth = some grown) :
    grown.entries.item? key = some (.string text) ↔
      growth.entries.item? key = some (.string text) ∨
        .pair [key] (.string text) ∈ aboveHeaders statements := by
  -- The first header ends both what the top level takes and the statements that count.
  induction statements generalizing growth with
  | nil =>
      cases grows
      simp [aboveHeaders]
  | cons statement statements ih =>
      rcases exists_of_foldlM_cons grows with ⟨next, taken, later⟩
      rcases take_cases taken with ⟨path, item, rfl, _, stillTop, adds⟩ | ⟨header, below, same⟩
      · rw [ih stillTop later, adds key text, or_assoc, aboveHeaders, aboveHeaders]
        simp [Statement.isPair, eq_comm]
      · have isHeader : ¬statement.isPair = true := fun isPair => header isPair top
        rw [sameStrings_of_below below later key text, same key text, aboveHeaders]
        simp [isHeader]

end Growth

/-- The strings at the top level of a document are those of its pairs above all headers whose keys
have one part. -/
theorem string_entriesOf?_iff {statements : List Statement} {entries : Entries}
    (grown : entriesOf? statements = some entries) {key text : Text} :
    entries.item? key = some (.string text) ↔
      .pair [key] (.string text) ∈ aboveHeaders statements := by
  rcases Option.map_eq_some_iff.mp grown with ⟨growth, grows, rfl⟩
  simpa [Entries.item?] using Growth.string_iff rfl grows

end ClassSizes.Toml
