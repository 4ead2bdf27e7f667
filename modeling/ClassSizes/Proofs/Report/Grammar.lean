import ClassSizes.Proofs.Report.ClassLine

/-!
# The grammar of a class line

A line conforms when it can be cut into `Parts`: a front, the marker, white space, a size, white
space, a name, and a rest.  The grammar asks nothing of the front and the rest, so that a line can
have many such cuts: the front may end at any marker that fits, and the name may stop early.  Once
the front is chosen only the name is free, since no character can belong to two neighbouring parts.

The search finds the cut whose front is shortest and, among these, the one whose name is longest.
A marker that does not fit is part of the front like any other text.
-/

namespace ClassSizes

/-- Two ways to end a run of characters of a class are the same. -/
theorem run_eq_of_append_eq {α : Type} {test : α → Bool} {run rest other otherRest : List α}
    (all : ∀ item ∈ run, test item = true) (ends : ∀ item ∈ rest.head?, test item = false)
    (otherAll : ∀ item ∈ other, test item = true)
    (otherEnds : ∀ item ∈ otherRest.head?, test item = false)
    (same : run ++ rest = other ++ otherRest) : run = other ∧ rest = otherRest := by
  obtain ⟨taken, dropped⟩ := takeWhile_dropWhile_append all ends
  obtain ⟨otherTaken, otherDropped⟩ := takeWhile_dropWhile_append otherAll otherEnds
  rw [same] at taken dropped
  exact ⟨taken.symm.trans otherTaken, dropped.symm.trans otherDropped⟩

namespace ClassLine

/-- The parts into which the pattern cuts a line. -/
structure Parts where
  front : Text
  before : Text
  size : Text
  between : Text
  name : Text
  rest : Text

namespace Parts

/-- What stands behind the marker. -/
def behind (parts : Parts) : Text :=
  parts.before ++ (parts.size ++ (parts.between ++ (parts.name ++ parts.rest)))

/-- The line that is cut. -/
def line (parts : Parts) : Text :=
  parts.front ++ (marker ++ parts.behind)

/-- The record that the parts hold. -/
def record (parts : Parts) : Record :=
  ⟨ClassName.slashForm parts.name, parts.size⟩

/-- The parts are what the pattern asks for. -/
structure Conform (parts : Parts) : Prop where
  before_ne_nil : parts.before ≠ []
  before_blank : ∀ character ∈ parts.before, isBlank character = true
  size_ne_nil : parts.size ≠ []
  size_digits : ∀ character ∈ parts.size, isDecimalDigit character = true
  between_ne_nil : parts.between ≠ []
  between_blank : ∀ character ∈ parts.between, isBlank character = true
  name_ne_nil : parts.name ≠ []
  name_solid : ∀ character ∈ parts.name, isBlank character = false

end Parts

/-- The parts are a cut of a line. -/
structure Cut (line : Text) (parts : Parts) : Prop where
  line_eq : line = parts.line
  conform : parts.Conform

/-- The cut of a line whose front is shortest and, among these, whose name is longest. -/
structure FirstCut (line : Text) (parts : Parts) : Prop extends Cut line parts where
  front_le : ∀ {other : Parts}, Cut line other → parts.front.length ≤ other.front.length
  name_le : ∀ {other : Parts}, Cut line other → other.front.length = parts.front.length →
    other.name.length ≤ parts.name.length

/-! ## Cuts behind one marker -/

namespace Parts

variable {parts other : Parts}

/-- White space ends where the size begins. -/
theorem Conform.before_ends (conform : parts.Conform) :
    ∀ character ∈ (parts.size ++ (parts.between ++ (parts.name ++ parts.rest))).head?,
      isBlank character = false := by
  refine forall_head?_append conform.size_ne_nil ?_
  intro character member
  exact isBlank_eq_false_of_isDecimalDigit (conform.size_digits character member)

/-- The size ends where white space begins. -/
theorem Conform.size_ends (conform : parts.Conform) :
    ∀ character ∈ (parts.between ++ (parts.name ++ parts.rest)).head?,
      isDecimalDigit character = false := by
  refine forall_head?_append conform.between_ne_nil ?_
  intro character member
  exact isDecimalDigit_eq_false_of_isBlank (conform.between_blank character member)

/-- White space ends where the name begins. -/
theorem Conform.between_ends (conform : parts.Conform) :
    ∀ character ∈ (parts.name ++ parts.rest).head?, isBlank character = false :=
  forall_head?_append conform.name_ne_nil conform.name_solid

/-- The parts in front of the name do not depend on where the name ends. -/
theorem Conform.eq_of_behind_eq (conform : parts.Conform) (otherConform : other.Conform)
    (same : parts.behind = other.behind) :
    parts.before = other.before ∧ parts.size = other.size ∧ parts.between = other.between ∧
      parts.name ++ parts.rest = other.name ++ other.rest := by
  rcases run_eq_of_append_eq conform.before_blank conform.before_ends otherConform.before_blank
    otherConform.before_ends same with ⟨before, sized⟩
  rcases run_eq_of_append_eq conform.size_digits conform.size_ends otherConform.size_digits
    otherConform.size_ends sized with ⟨size, separated⟩
  rcases run_eq_of_append_eq conform.between_blank conform.between_ends otherConform.between_blank
    otherConform.between_ends separated with ⟨between, named⟩
  exact ⟨before, size, between, named⟩

/-- The same parts, the name going on as long as it can. -/
def stretched (parts : Parts) : Parts :=
  { parts with
    name := parts.name ++ parts.rest.takeWhile (!isBlank ·)
    rest := parts.rest.dropWhile (!isBlank ·) }

@[simp]
theorem behind_stretched (parts : Parts) : parts.stretched.behind = parts.behind := by
  simp [behind, stretched, List.append_assoc, List.takeWhile_append_dropWhile]

theorem rest_stretched_blank (parts : Parts) :
    ∀ character ∈ parts.stretched.rest.head?, isBlank character = true := by
  intro character first
  simpa using head?_dropWhile _ parts.rest character first

theorem Conform.stretched (conform : parts.Conform) : parts.stretched.Conform where
  before_ne_nil := conform.before_ne_nil
  before_blank := conform.before_blank
  size_ne_nil := conform.size_ne_nil
  size_digits := conform.size_digits
  between_ne_nil := conform.between_ne_nil
  between_blank := conform.between_blank
  name_ne_nil := List.append_ne_nil_of_left_ne_nil conform.name_ne_nil _
  name_solid := by
    intro character member
    rcases List.mem_append.mp member with inName | inRest
    · exact conform.name_solid character inName
    · simpa using List.mem_takeWhile_imp inRest

/-- Parts whose name cannot go on have the shape that the search looks for. -/
theorem Conform.shape (conform : parts.Conform)
    (ends : ∀ character ∈ parts.rest.head?, isBlank character = true) :
    Shape parts.before parts.size parts.between parts.name parts.rest where
  before_ne_nil := conform.before_ne_nil
  before_blank := conform.before_blank
  size_ne_nil := conform.size_ne_nil
  size_digits := conform.size_digits
  between_ne_nil := conform.between_ne_nil
  between_blank := conform.between_blank
  name_ne_nil := conform.name_ne_nil
  name_solid := conform.name_solid
  rest_blank := ends

theorem Conform.shape?_behind (conform : parts.Conform)
    (ends : ∀ character ∈ parts.rest.head?, isBlank character = true) :
    shape? parts.behind = some parts.record :=
  shape?_eq_some_iff.mpr ⟨_, _, _, _, conform.shape ends, rfl, rfl⟩

/-- Where parts conform, the text behind the marker has the shape that the search looks for. -/
theorem Conform.exists_shape? (conform : parts.Conform) :
    ∃ record, shape? parts.behind = some record := by
  refine ⟨parts.stretched.record, ?_⟩
  rw [← behind_stretched]
  exact conform.stretched.shape?_behind parts.rest_stretched_blank

end Parts

/-- A text that has the shape can be cut behind a marker, up to the end of its name. -/
theorem exists_conform_of_shape? {text : Text} {record : Record}
    (fits : shape? text = some record) (front : Text) :
    ∃ parts : Parts, parts.front = front ∧ parts.behind = text ∧ parts.record = record ∧
      parts.Conform ∧ ∀ character ∈ parts.rest.head?, isBlank character = true := by
  rcases shape?_eq_some_iff.mp fits with ⟨before, between, name, rest, shape, slashed, rfl⟩
  refine ⟨⟨front, before, record.size, between, name, rest⟩, rfl, rfl, ?_, ?_, shape.rest_blank⟩
  · rw [Parts.record, ← slashed]
  · exact ⟨shape.before_ne_nil, shape.before_blank, shape.size_ne_nil, shape.size_digits,
      shape.between_ne_nil, shape.between_blank, shape.name_ne_nil, shape.name_solid⟩

/-! ## The first marker that fits -/

/-- No marker that begins in the front of a text is followed by the shape. -/
def NoneFits (front text : Text) : Prop :=
  ∀ {earlier later : Text}, front ++ text = earlier ++ (marker ++ later) →
    earlier.length < front.length → shape? later = none

theorem NoneFits.tail {first : Char} {front text : Text} (none : NoneFits (first :: front) text) :
    NoneFits front text := by
  intro earlier later cut shorter
  apply @none (first :: earlier) later
  · rw [List.cons_append, cut, List.cons_append]
  · exact Nat.succ_lt_succ shorter

/-- A character at which no marker fits is passed over. -/
theorem search_cons_of_none {first : Char} {rest : Text}
    (unfit : ∀ {later : Text}, first :: rest = marker ++ later → shape? later = none) :
    search (first :: rest) = search rest := by
  rw [search]
  split
  · next marked =>
    rcases List.isPrefixOf_iff_prefix.mp marked with ⟨later, cut⟩
    have dropped : rest.drop (marker.length - 1) = later := by
      have := congrArg (List.drop marker.length) cut
      simpa [marker] using this.symm
    rw [dropped, unfit cut.symm]
  · rfl

/-- Text in which no marker fits does not matter, whatever markers it holds. -/
theorem search_append_of_noneFits {front text : Text} (none : NoneFits front text) :
    search (front ++ text) = search text := by
  induction front with
  | nil => rfl
  | cons first front ih =>
      rw [List.cons_append, search_cons_of_none, ih none.tail]
      intro later cut
      exact @none [] later cut (Nat.zero_lt_succ _)

theorem NoneFits.cons {first : Char} {front text : Text}
    (unfit : ∀ {later : Text}, first :: (front ++ text) = marker ++ later → shape? later = none)
    (none : NoneFits front text) : NoneFits (first :: front) text := by
  intro earlier later cut shorter
  cases earlier with
  | nil => exact unfit cut
  | cons other earlier => exact none (List.cons.inj cut).2 (Nat.lt_of_succ_lt_succ shorter)

/-- The search stops at the first marker that is followed by the shape. -/
theorem exists_first_of_search {line : Text} {record : Record}
    (found : search line = some record) :
    ∃ front text, line = front ++ (marker ++ text) ∧ shape? text = some record ∧
      NoneFits front (marker ++ text) := by
  induction line with
  | nil => contradiction
  | cons first rest ih =>
      by_cases unfit : ∀ {later : Text}, first :: rest = marker ++ later → shape? later = none
      · rw [search_cons_of_none unfit] at found
        rcases ih found with ⟨front, text, rfl, fits, none⟩
        exact ⟨first :: front, text, rfl, fits, none.cons unfit⟩
      · simp only [not_forall] at unfit
        rcases unfit with ⟨text, cut, fits⟩
        rcases Option.ne_none_iff_exists'.mp fits with ⟨other, fits⟩
        rw [cut, search_marker_append fits] at found
        cases found
        exact ⟨[], text, cut, fits, nofun⟩

/-- If the search finds nothing, no marker is followed by the shape. -/
theorem shape?_eq_none_of_search {front text : Text}
    (nothing : search (front ++ (marker ++ text)) = none) : shape? text = none := by
  induction front with
  | nil =>
      by_contra fits
      rcases Option.ne_none_iff_exists'.mp fits with ⟨record, fits⟩
      rw [List.nil_append, search_marker_append fits] at nothing
      contradiction
  | cons first front ih =>
      apply ih
      rw [List.cons_append, search] at nothing
      split at nothing
      · split at nothing
        · contradiction
        · exact nothing
      · exact nothing

/-- Looking for the marker first rejects no line in which the search would find a record. -/
theorem record?_eq_search (line : Text) : record? line = search line := by
  unfold record?
  split
  · rfl
  · next unmarked =>
    cases found : search line with
    | none => rfl
    | some record =>
        rcases exists_first_of_search found with ⟨front, text, rfl, _, _⟩
        exact absurd (occursIn_iff.mpr ⟨front, text, List.append_assoc _ _ _⟩) unmarked

/-! ## The cut that the search finds -/

section

variable {line : Text} {parts other : Parts}

theorem Cut.exists_search (cut : Cut line parts) : ∃ record, search line = some record := by
  rw [cut.line_eq, Parts.line]
  cases found : search (parts.front ++ (marker ++ parts.behind)) with
  | some record => exact ⟨record, rfl⟩
  | none =>
      rcases cut.conform.exists_shape? with ⟨record, fits⟩
      rw [shape?_eq_none_of_search found] at fits
      contradiction

/-- Two cuts of a line whose fronts are equally long differ in the end of the name only. -/
theorem Cut.behind_eq (cut : Cut line parts) (otherCut : Cut line other)
    (sameLength : parts.front.length = other.front.length) :
    parts.front = other.front ∧ parts.behind = other.behind := by
  have same : parts.line = other.line := cut.line_eq.symm.trans otherCut.line_eq
  rcases List.append_inj same sameLength with ⟨front, marked⟩
  exact ⟨front, List.append_cancel_left marked⟩

/-- A line with a cut has a first one. -/
theorem Cut.exists_firstCut (cut : Cut line parts) : ∃ first, FirstCut line first := by
  rcases cut.exists_search with ⟨record, found⟩
  rcases exists_first_of_search found with ⟨front, text, rfl, fits, none⟩
  rcases exists_conform_of_shape? fits front with ⟨first, rfl, rfl, _, conform, ends⟩
  refine ⟨first, ⟨⟨rfl, conform⟩, ?_, ?_⟩⟩
  · intro other otherCut
    by_contra longer
    rcases otherCut.conform.exists_shape? with ⟨record, fits⟩
    rw [none otherCut.line_eq (Nat.lt_of_not_le longer)] at fits
    contradiction
  · intro other otherCut sameLength
    -- The name of the first cut is the longest run of solid characters that begins where it does.
    rcases otherCut.behind_eq ⟨rfl, conform⟩ sameLength with ⟨_, same⟩
    rcases otherCut.conform.eq_of_behind_eq conform same with ⟨_, _, _, named⟩
    have solid : ∀ character ∈ first.name, (!isBlank character) = true := by
      simpa using conform.name_solid
    have stops : ∀ character ∈ first.rest.head?, (!isBlank character) = false := by
      simpa using ends
    have otherSolid : ∀ character ∈ other.name, (!isBlank character) = true := by
      simpa using otherCut.conform.name_solid
    calc
      other.name.length ≤ ((other.name ++ other.rest).takeWhile (!isBlank ·)).length := by
        rw [List.takeWhile_append_of_pos otherSolid, List.length_append]
        exact Nat.le_add_right _ _
      _ = first.name.length := by rw [named, (takeWhile_dropWhile_append solid stops).1]

/-- The name of a first cut ends where white space begins, or with the line. -/
theorem FirstCut.rest_blank (first : FirstCut line parts) :
    ∀ character ∈ parts.rest.head?, isBlank character = true := by
  have stretched : Cut line parts.stretched := by
    refine ⟨?_, first.conform.stretched⟩
    rw [first.line_eq, Parts.line, Parts.line, Parts.behind_stretched]
    rfl
  have longest := first.name_le stretched rfl
  have nothing : parts.rest.takeWhile (!isBlank ·) = [] := by
    rw [Parts.stretched, List.length_append] at longest
    exact List.eq_nil_of_length_eq_zero (by omega)
  have same : parts.stretched.rest = parts.rest := by
    have whole := List.takeWhile_append_dropWhile (p := (!isBlank ·)) (l := parts.rest)
    rwa [nothing, List.nil_append] at whole
  rw [← same]
  exact parts.rest_stretched_blank

theorem FirstCut.record?_eq (first : FirstCut line parts) : record? line = some parts.record := by
  have none : NoneFits parts.front (marker ++ parts.behind) := by
    intro earlier later cut shorter
    by_contra fits
    rcases Option.ne_none_iff_exists'.mp fits with ⟨record, fits⟩
    rcases exists_conform_of_shape? fits earlier with ⟨other, rfl, rfl, _, conform, _⟩
    exact absurd (first.front_le ⟨first.line_eq.trans cut, conform⟩) (Nat.not_le_of_lt shorter)
  rw [record?_eq_search, first.line_eq, Parts.line, search_append_of_noneFits none]
  exact search_marker_append (first.conform.shape?_behind first.rest_blank)

theorem FirstCut.unique (first : FirstCut line parts) (second : FirstCut line other) :
    parts = other := by
  have sameFront : parts.front.length = other.front.length :=
    Nat.le_antisymm (first.front_le second.toCut) (second.front_le first.toCut)
  have sameName : parts.name.length = other.name.length :=
    Nat.le_antisymm (second.name_le first.toCut sameFront)
      (first.name_le second.toCut sameFront.symm)
  rcases first.toCut.behind_eq second.toCut sameFront with ⟨front, behind⟩
  rcases first.conform.eq_of_behind_eq second.conform behind with ⟨before, size, between, named⟩
  rcases List.append_inj named sameName with ⟨name, rest⟩
  cases parts
  cases other
  simp_all

end

/-- A line holds a record if and only if it can be cut as the grammar says.  The record is then that
of the first cut, of which there is one only, and whose name ends at white space or at the end of
the line.  Text in front of which no cut ends does not matter, whatever markers it holds, and
neither does the look for a marker before the search. -/
theorem record?_grammar (line : Text) :
    ((record? line).isSome ↔ ∃ parts, Cut line parts) ∧
      (∀ parts, Cut line parts →
        ∃ first, FirstCut line first ∧ (∀ other, FirstCut line other → other = first) ∧
          record? line = some ⟨ClassName.slashForm first.name, first.size⟩ ∧
          ∀ character ∈ first.rest.head?, isBlank character = true) ∧
      (∀ front text, line = front ++ text →
        (∀ parts, Cut line parts → front.length ≤ parts.front.length) →
        record? line = record? text) ∧
      record? line = search line := by
  refine ⟨⟨?_, ?_⟩, ?_, ?_, record?_eq_search line⟩
  · intro holds
    rcases Option.isSome_iff_exists.mp holds with ⟨record, found⟩
    rw [record?_eq_search] at found
    rcases exists_first_of_search found with ⟨front, text, rfl, fits, _⟩
    rcases exists_conform_of_shape? fits front with ⟨parts, rfl, rfl, _, conform, _⟩
    exact ⟨parts, rfl, conform⟩
  · rintro ⟨parts, cut⟩
    rcases cut.exists_search with ⟨record, found⟩
    rw [record?_eq_search, found]
    rfl
  · intro parts cut
    rcases cut.exists_firstCut with ⟨first, isFirst⟩
    exact ⟨first, isFirst, fun other second => second.unique isFirst, isFirst.record?_eq,
      isFirst.rest_blank⟩
  · rintro front text rfl later
    rw [record?_eq_search, record?_eq_search, search_append_of_noneFits]
    intro earlier rest cut shorter
    by_contra fits
    rcases Option.ne_none_iff_exists'.mp fits with ⟨record, fits⟩
    rcases exists_conform_of_shape? fits earlier with ⟨parts, rfl, rfl, _, conform, _⟩
    exact absurd (later parts ⟨cut, conform⟩) (Nat.not_le_of_lt shorter)

/-- The first marker does not fit, the second one does, and the third stands behind the name. -/
theorem record?_grammar_second_marker :
    let line := "@@ Class x @@ Class  ٣4 5.x @@ Class 1 B".toList
    let short : Parts :=
      ⟨"@@ Class x ".toList, "  ".toList, "٣4".toList, " ".toList, "5".toList,
        ".x @@ Class 1 B".toList⟩
    Cut line short ∧ ∃ first, FirstCut line first ∧
      ClassName.slashForm first.name = "5/x".toList ∧ first.size = "٣4".toList := by
  intro line short
  -- The quantifiers range over the characters of a list, never over all characters.
  have conform : short.Conform := by
    refine ⟨by decide, List.all_eq_true.mp ?_, by decide, List.all_eq_true.mp ?_, by decide,
      List.all_eq_true.mp ?_, by decide, List.forall_mem_singleton.mpr ?_⟩ <;> decide
  have cut : Cut line short := ⟨by decide, conform⟩
  rcases (record?_grammar line).2.1 short cut with ⟨first, isFirst, _, record, _⟩
  have read : record? line = some ⟨"5/x".toList, "٣4".toList⟩ := by decide
  rw [read, Option.some_inj, Record.mk.injEq] at record
  exact ⟨cut, first, isFirst, record.1.symm, record.2.symm⟩

end ClassLine

end ClassSizes
