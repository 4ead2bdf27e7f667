import ClassSizes.Proofs.Files.Store
import Mathlib.Data.List.TakeWhile

/-!
# Parents and joined paths

Every path of something that is not a directory has a parent: what it names stands under its last
component, so not all of its components name nothing.  Joining keeps a base in front unless the path
that is joined begins at the root itself.
-/

namespace ClassSizes

namespace Path

variable {base path : Path}

/-! ## Paths that begin at the root -/

theorem isAbsolute_append (absolute : isAbsolute base = true) (rest : Bytes) :
    isAbsolute (base ++ rest) = true := by
  cases base with
  | nil => contradiction
  | cons first base => exact absolute

theorem isAbsolute_join (absolute : isAbsolute base = true) :
    isAbsolute (join base path) = true := by
  unfold join
  split
  · assumption
  · split
    · exact isAbsolute_append absolute path
    · exact isAbsolute_append absolute (slash :: path)

/-- Joining puts nothing in front of a relative path that could begin at the root, unless the base
does. -/
theorem isAbsolute_join_of_relative (relative : ¬isAbsolute path = true) :
    isAbsolute (join base path) = isAbsolute base := by
  rw [join, if_neg relative]
  cases base with
  | nil => simpa [isAbsolute] using relative
  | cons first base => split <;> rfl

/-- A joined path is the path itself if the base is replaced or adds nothing. -/
theorem join_eq_self_iff : join base path = path ↔ isAbsolute path = true ∨ base = [] := by
  unfold join
  split
  case isTrue absolute => exact iff_of_true rfl (.inl absolute)
  case isFalse relative =>
    split
    case isTrue => simp [relative]
    case isFalse apart =>
      have longer : base ++ slash :: path ≠ path := fun same => by
        have lengths := congrArg List.length same
        simp only [List.length_append, List.length_cons] at lengths
        omega
      exact iff_of_false longer (not_or.mpr ⟨relative, fun empty => apart (.inl empty)⟩)

theorem anchor_of_isAbsolute (absolute : isAbsolute path = true) : anchor path = [slash] :=
  if_pos absolute

theorem isAbsolute_of_parent? (absolute : isAbsolute path = true)
    (isParent : parent? path = some base) :
    isAbsolute base = true := by
  unfold parent? at isParent
  rw [anchor_of_isAbsolute absolute] at isParent
  split at isParent
  · contradiction
  · cases isParent
    rfl

/-! ## Paths that have a parent -/

theorem dropIdle_eq_nil_iff {parts : List Bytes} :
    dropIdle parts = [] ↔ ∀ part ∈ parts, isIdle part = true := by
  rw [dropIdle, List.reverse_eq_nil_iff, List.dropWhile_eq_nil_iff]
  simp only [List.mem_reverse]

/-- Cutting off the anchor loses no component that names something. -/
theorem mem_cutAt_drop_anchor {component : Bytes} (named : isIdle component = false)
    (member : component ∈ cutAt slash path) :
    component ∈ cutAt slash (path.drop (anchor path).length) := by
  unfold anchor
  split
  case isTrue absolute =>
    obtain ⟨rest, rfl⟩ := List.head?_eq_some_iff.mp (beq_iff_eq.mp absolute)
    rcases (by simpa [cutAt] using member : component = [] ∨ _) with rfl | member
    · contradiction
    · exact member
  case isFalse =>
    split
    case isTrue atDot =>
      rcases atDot with rfl | isPrefix
      · obtain rfl : component = [dot] := List.mem_singleton.mp member
        contradiction
      · obtain ⟨rest, rfl⟩ := List.isPrefixOf_iff_prefix.mp isPrefix
        rcases (by simpa [cutAt, dot, slash] using member : component = [dot] ∨ _) with rfl | member
        · contradiction
        · simpa [cutAt, dot, slash] using .inr member
    case isFalse => exact member

theorem exists_parent? {component : Bytes} (member : component ∈ cutAt slash path)
    (named : isIdle component = false) :
    ∃ base, parent? path = some base := by
  have some : components path ≠ [] := by
    intro nothing
    have idle := dropIdle_eq_nil_iff.mp nothing component (mem_cutAt_drop_anchor named member)
    rw [named] at idle
    contradiction
  exact ⟨_, if_neg some⟩

end Path

namespace Store

/-- What can be read to its end has a parent. -/
theorem exists_parent?_of_contents? {store : Store} {path : Path} {bytes : Bytes}
    (read : store.contents? path = some bytes) : ∃ base, Path.parent? path = some base := by
  obtain ⟨entry, opened, ended⟩ := contents?_eq_some_iff.mp read
  have other : entry ≠ .directory := by
    rintro rfl
    contradiction
  rcases locate_eq_ok_iff.mp (openInput_eq_ok_iff.mp opened).1 with ⟨_, leads⟩
  rcases leads.exists_last (by simpa using other) with ⟨front, last, cut, name⟩
  have member : last ∈ cutAt Path.slash path := by simp [cut]
  exact Path.exists_parent? member (by simpa [Path.isIdle] using name.not_idle)

end Store
end ClassSizes
