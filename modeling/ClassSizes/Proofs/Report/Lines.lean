import ClassSizes.Report.Lines
import ClassSizes.Proofs.Text.Decoding
import Mathlib.Data.List.DropRight

/-!
# The lines of a whole report

A run cuts a report into pieces before it decodes anything.  Here the report is decoded as one text
and cut once, by the universal rule that `LF`, `CR LF` and a lone `CR` all end lines.  The lines
are the same, except that noise without any text after the last line feed still makes one line,
which is empty.

Facts about reports are proved piece by piece with `induction_on_pieces`.
-/

namespace ClassSizes.Report

/-! ## Cutting a text once -/

/-- Put a character in front of the first line. -/
def extendFirst (character : Char) : List Text → List Text
  | [] => [[character]]
  | line :: lines => (character :: line) :: lines

/-- The lines of a text.  A carriage return in front of a line feed belongs to the line end that
the line feed makes; what is left after the last line end is a line unless it is empty. -/
def universalLines : Text → List Text
  | [] => []
  | character :: rest =>
      if character = '\n' then [] :: universalLines rest
      else if character = '\r' then
        if rest.head? = some '\n' then universalLines rest else [] :: universalLines rest
      else extendFirst character (universalLines rest)

theorem extendFirst_append (character : Char) {lines : List Text} (some_line : lines ≠ [])
    (more : List Text) :
    extendFirst character (lines ++ more) = extendFirst character lines ++ more := by
  cases lines with
  | nil => contradiction
  | cons line lines => rfl

theorem cutAt_cons_self (separator : Char) (rest : Text) :
    cutAt separator (separator :: rest) = [] :: cutAt separator rest := by
  simp [cutAt]

theorem cutAt_cons_of_ne {separator character : Char} (other : character ≠ separator)
    (rest : Text) :
    cutAt separator (character :: rest) = extendFirst character (cutAt separator rest) := by
  rw [cutAt, if_neg other]
  cases cutAt separator rest <;> rfl

theorem dropEnd_concat (last : Char) (text : Text) : dropEnd last (text ++ [last]) = text := by
  simp [dropEnd]

theorem dropEnd_of_not_mem {last : Char} {text : Text} (absent : last ∉ text) :
    dropEnd last text = text := by
  rw [dropEnd, if_neg]
  intro ends
  exact absent (List.mem_of_getLast? ends)

theorem dropEnd_singleton_of_ne {last character : Char} (other : character ≠ last) :
    dropEnd last [character] = [character] := by
  simp [dropEnd, other]

theorem dropEnd_cons_cons (last first second : Char) (rest : Text) :
    dropEnd last (first :: second :: rest) = first :: dropEnd last (second :: rest) := by
  unfold dropEnd
  split <;> simp_all

/-- Up to a line feed or to the end, the universal rule cuts at carriage returns, one at the very
end apart. -/
theorem universalLines_append {body ending : Text} (noFeed : '\n' ∉ body)
    (ends : body ≠ [] ∧ ending = [] ∨ ∃ rest, ending = '\n' :: rest) :
    universalLines (body ++ ending) =
      cutAt '\r' (dropEnd '\r' body) ++ universalLines ending.tail := by
  induction body with
  | nil =>
      obtain ⟨rest, rfl⟩ := ends.resolve_left fun empty => empty.1 rfl
      simp [universalLines, dropEnd, cutAt]
  | cons character body ih =>
      have notFeed : character ≠ '\n' := fun feed => noFeed (feed ▸ List.mem_cons_self)
      cases body with
      | nil =>
          -- The last character before the line end: a carriage return is part of that line end.
          by_cases carriage : character = '\r'
          · subst carriage
            rcases ends with ⟨_, rfl⟩ | ⟨rest, rfl⟩ <;>
              simp [universalLines, dropEnd, cutAt]
          · rw [dropEnd_singleton_of_ne carriage, cutAt_cons_of_ne carriage]
            rcases ends with ⟨_, rfl⟩ | ⟨rest, rfl⟩ <;>
              simp [universalLines, extendFirst, cutAt, notFeed, carriage]
      | cons next body =>
          have noFeedAfter : '\n' ∉ next :: body :=
            fun member => noFeed (List.mem_cons_of_mem _ member)
          have nextNotFeed : next ≠ '\n' :=
            fun feed => noFeedAfter (feed ▸ List.mem_cons_self)
          have step := ih noFeedAfter (ends.imp_left fun final => ⟨List.cons_ne_nil _ _, final.2⟩)
          rw [dropEnd_cons_cons, List.cons_append, universalLines, if_neg notFeed]
          by_cases carriage : character = '\r'
          · subst carriage
            rw [if_pos rfl, if_neg (by simpa using nextNotFeed), step, cutAt_cons_self,
              List.cons_append]
          · rw [if_neg carriage, step, cutAt_cons_of_ne carriage,
              extendFirst_append _ (cutAt_ne_nil _ _)]

/-- A text up to a line feed is cut like a piece. -/
theorem universalLines_append_lineFeed {body : Text} (noFeed : '\n' ∉ body) (rest : Text) :
    universalLines (body ++ '\n' :: rest) =
      linesOfText (body ++ ['\n']) ++ universalLines rest := by
  rw [universalLines_append noFeed (Or.inr ⟨rest, rfl⟩), linesOfText, dropEnd_concat,
    List.tail_cons]

/-- A text without a line feed is cut like a piece, unless it is empty. -/
theorem universalLines_of_not_mem {text : Text} (noFeed : '\n' ∉ text) (nonempty : text ≠ []) :
    universalLines text = linesOfText text := by
  have cut := universalLines_append noFeed (Or.inl ⟨nonempty, rfl⟩)
  rw [linesOfText, dropEnd_of_not_mem noFeed]
  simpa [universalLines] using cut

/-! ## Pieces -/

/-- What a report holds up to its last line feed: its complete pieces. -/
def completed (data : Bytes) : Bytes :=
  data.rdropWhile (· ≠ lineFeed)

/-- What a report holds after its last line feed. -/
def unfinished (data : Bytes) : Bytes :=
  data.rtakeWhile (· ≠ lineFeed)

/-- The lines of a report: those of its text, and one more, which is empty, if there is nothing but
noise after the last line feed. -/
def lines (data : Bytes) : List Text :=
  universalLines (Utf8.decodeLossy data) ++
    if unfinished data ≠ [] ∧ Utf8.decodeLossy (unfinished data) = [] then [[]] else []

/-- A report is a piece without a line feed, or begins with a complete piece. -/
@[elab_as_elim]
theorem induction_on_pieces {motive : Bytes → Prop} (data : Bytes)
    (last : ∀ piece, lineFeed ∉ piece → motive piece)
    (next : ∀ body rest, lineFeed ∉ body → motive rest → motive (body ++ lineFeed :: rest)) :
    motive data := by
  induction length : data.length using Nat.strong_induction_on generalizing data with
  | _ size ih =>
      by_cases member : lineFeed ∈ data
      · obtain ⟨body, rest, rfl, noFeed⟩ := List.eq_append_cons_of_mem member
        refine next body rest noFeed (ih rest.length ?_ rest rfl)
        rw [← length, List.length_append, List.length_cons]
        omega
      · exact last data member

theorem ne_lineFeed_of_mem {piece : Bytes} (noFeed : lineFeed ∉ piece) :
    ∀ byte ∈ piece, decide (byte ≠ lineFeed) = true := by
  intro byte member
  exact decide_eq_true fun feed => noFeed (feed ▸ member)

@[simp]
theorem completed_of_not_mem {piece : Bytes} (noFeed : lineFeed ∉ piece) : completed piece = [] :=
  List.rdropWhile_eq_nil_iff.mpr (ne_lineFeed_of_mem noFeed)

@[simp]
theorem unfinished_of_not_mem {piece : Bytes} (noFeed : lineFeed ∉ piece) :
    unfinished piece = piece :=
  List.rtakeWhile_eq_self_iff.mpr (ne_lineFeed_of_mem noFeed)

theorem takeWhile_append_lineFeed (first rest : Bytes) :
    (first ++ lineFeed :: rest).takeWhile (· ≠ lineFeed) = first.takeWhile (· ≠ lineFeed) := by
  induction first with
  | nil => simp
  | cons byte first ih => simp only [List.cons_append, List.takeWhile_cons, ih]

/-- Only what follows the last line feed is unfinished. -/
@[simp]
theorem unfinished_append_lineFeed (body rest : Bytes) :
    unfinished (body ++ lineFeed :: rest) = unfinished rest := by
  simp only [unfinished, List.rtakeWhile, List.reverse_append, List.reverse_cons,
    List.append_assoc, List.singleton_append]
  rw [takeWhile_append_lineFeed]

theorem completed_append_unfinished (data : Bytes) : completed data ++ unfinished data = data :=
  List.rdropWhile_append_rtakeWhile

@[simp]
theorem completed_append_lineFeed (body rest : Bytes) :
    completed (body ++ lineFeed :: rest) = body ++ lineFeed :: completed rest := by
  have whole := completed_append_unfinished (body ++ lineFeed :: rest)
  have parts := completed_append_unfinished rest
  rw [unfinished_append_lineFeed] at whole
  have joined : completed (body ++ lineFeed :: rest) ++ unfinished rest =
      (body ++ lineFeed :: completed rest) ++ unfinished rest := by
    rw [whole, List.append_assoc, List.cons_append, parts]
  exact List.append_cancel_right joined

/-- The longest beginning of a report that is empty or ends in a line feed. -/
structure IsCompleted (data part : Bytes) : Prop where
  begins : part <+: data
  ends : part = [] ∨ part.getLast? = some lineFeed
  longest : ∀ other, other <+: data → other = [] ∨ other.getLast? = some lineFeed →
    other.length ≤ part.length

theorem isCompleted_completed (data : Bytes) : IsCompleted data (completed data) where
  begins := ⟨unfinished data, completed_append_unfinished data⟩
  ends := by
    by_cases empty : completed data = []
    · exact Or.inl empty
    · have last : ¬decide ((completed data).getLast empty ≠ lineFeed) = true :=
        List.rdropWhile_last_not _ _ empty
      rw [decide_eq_true_eq, not_not] at last
      rw [List.getLast?_eq_some_getLast empty, last]
      exact Or.inr rfl
  longest := by
    rintro other ⟨more, rfl⟩ (rfl | ends)
    · exact Nat.zero_le _
    · obtain ⟨body, rfl⟩ := List.getLast?_eq_some_iff.mp ends
      rw [List.append_assoc, List.singleton_append, completed_append_lineFeed]
      simp

theorem IsCompleted.eq_completed {data part : Bytes} (isCompleted : IsCompleted data part) :
    part = completed data := by
  have whole := isCompleted_completed data
  apply (List.prefix_of_prefix_length_le isCompleted.begins whole.begins _).eq_of_length
  · apply Nat.le_antisymm
    · exact whole.longest part isCompleted.begins isCompleted.ends
    · exact isCompleted.longest _ whole.begins whole.ends
  · exact whole.longest part isCompleted.begins isCompleted.ends

/-! ## The lines of a report, piece by piece -/

theorem lineFeed_not_mem_decodeLossy {piece : Bytes} (noFeed : lineFeed ∉ piece) :
    '\n' ∉ Utf8.decodeLossy piece :=
  fun member => noFeed ((Utf8.mem_decodeLossy_iff (by decide) piece).mp member)

theorem decodeLossy_append_lineFeed (body rest : Bytes) :
    Utf8.decodeLossy (body ++ lineFeed :: rest) =
      Utf8.decodeLossy body ++ '\n' :: Utf8.decodeLossy rest := by
  rw [Utf8.decodeLossy_append, Utf8.decodeLossy_cons_of_ascii (by decide)]
  · rfl
  · intro byte first
    cases first
    decide

theorem lines_of_not_mem {piece : Bytes} (noFeed : lineFeed ∉ piece) :
    lines piece = if piece = [] then [] else linesOfPiece piece := by
  rw [lines, unfinished_of_not_mem noFeed]
  by_cases empty : piece = []
  · subst empty
    rfl
  · rw [if_neg empty, linesOfPiece]
    by_cases noise : Utf8.decodeLossy piece = []
    · simp [empty, noise, universalLines, linesOfText, dropEnd, cutAt]
    · rw [universalLines_of_not_mem (lineFeed_not_mem_decodeLossy noFeed) noise]
      simp [noise]

theorem lines_append_lineFeed {body : Bytes} (noFeed : lineFeed ∉ body) (rest : Bytes) :
    lines (body ++ lineFeed :: rest) = linesOfPiece (body ++ [lineFeed]) ++ lines rest := by
  have decoded : Utf8.decodeLossy (body ++ [lineFeed]) = Utf8.decodeLossy body ++ ['\n'] :=
    decodeLossy_append_lineFeed body []
  rw [lines, decodeLossy_append_lineFeed, unfinished_append_lineFeed,
    universalLines_append_lineFeed (lineFeed_not_mem_decodeLossy noFeed), linesOfPiece, decoded,
    List.append_assoc]
  rfl

/-- The lines of the complete pieces come first; what is unfinished adds the lines of one more
piece unless it is empty. -/
theorem lines_eq_completed_append (data : Bytes) :
    lines data = lines (completed data) ++
      if unfinished data = [] then [] else linesOfPiece (unfinished data) := by
  induction data using induction_on_pieces with
  | last piece noFeed => simp [noFeed, lines_of_not_mem]
  | next body rest noFeed ih =>
      rw [completed_append_lineFeed, unfinished_append_lineFeed, lines_append_lineFeed noFeed,
        lines_append_lineFeed noFeed, List.append_assoc, ← ih]

/-- Noise after the last line feed makes a line. -/
example : lines [65, 10, 0xC3] = [['A'], []] := by
  decide

end ClassSizes.Report
