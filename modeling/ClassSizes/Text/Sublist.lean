/-!
# Searching, replacing and cutting lists

Contiguous occurrences of one list in another.  All three operations read from left to right, so
they are recursions on the list that is read; a replacement that has matched skips the rest of
its match by a counter instead of by dropping, which keeps the recursion structural.
-/

namespace ClassSizes

variable {α : Type} [DecidableEq α]

/-- Whether `pattern` stands somewhere in a list. -/
def occursIn (pattern : List α) : List α → Bool
  | [] => pattern.isEmpty
  | first :: rest => pattern.isPrefixOf (first :: rest) || occursIn pattern rest

/-- Copy a list, putting `substitute` for every occurrence of `pattern`; the next `skip` elements
belong to an occurrence that has been replaced already. -/
def replaceFrom (pattern substitute : List α) (skip : Nat) : List α → List α
  | [] => []
  | first :: rest =>
    match skip with
    | remaining + 1 => replaceFrom pattern substitute remaining rest
    | 0 =>
      if pattern.isPrefixOf (first :: rest) then
        substitute ++ replaceFrom pattern substitute (pattern.length - 1) rest
      else first :: replaceFrom pattern substitute 0 rest

/-- Put `substitute` for every occurrence of the non-empty `pattern`, from left to right and
without overlaps. -/
def replaceAll (pattern substitute text : List α) : List α :=
  replaceFrom pattern substitute 0 text

/-- The parts of a list between the occurrences of a separator; there is always at least one. -/
def cutAt (separator : α) : List α → List (List α)
  | [] => [[]]
  | first :: rest =>
    if first = separator then [] :: cutAt separator rest
    else
      match cutAt separator rest with
      | [] => [[first]]
      | part :: parts => (first :: part) :: parts

/-- Join the parts of a list by a separator. -/
def joinWith (separator : α) : List (List α) → List α
  | [] => []
  | [part] => part
  | part :: next :: parts => part ++ separator :: joinWith separator (next :: parts)

/-- Drop one element from the end of a list if it is the given one. -/
def dropEnd (last : α) (list : List α) : List α :=
  if list.getLast? = some last then list.dropLast else list

theorem occursIn_iff {pattern text : List α} : occursIn pattern text ↔ pattern <:+: text := by
  induction text with
  | nil => simp [occursIn]
  | cons first rest ih => simp [occursIn, ih, List.infix_cons_iff]

theorem cutAt_ne_nil (separator : α) (list : List α) : cutAt separator list ≠ [] := by
  cases list with
  | nil => simp [cutAt]
  | cons first rest =>
    unfold cutAt
    split
    · simp
    · split <;> simp

end ClassSizes
