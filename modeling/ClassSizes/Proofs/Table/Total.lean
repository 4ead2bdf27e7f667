import ClassSizes.Proofs.Size
import ClassSizes.Table
import Mathlib.Algebra.BigOperators.Group.List.Basic

/-!
# The total of a table

A total is added up size by size, and every sum that passes the limit of 64 bits is brought back to
the limit.  A sum that has reached the limit stays there, so that it does not matter where in the
table this happens: the total is the exact sum, brought back to the limit once.  The order of the
records, and how a table has been put together, can therefore not be seen in it.
-/

namespace ClassSizes.Table

/-- The sum of the sizes that are numerals within the limit, whatever it comes to. -/
def exactTotal (records : List Record) : Nat :=
  (records.filterMap Record.bytes?).sum

theorem exactTotal_append (first second : List Record) :
    exactTotal (first ++ second) = exactTotal first + exactTotal second := by
  rw [exactTotal, List.filterMap_append, List.sum_append]
  rfl

theorem exactTotal_of_perm {first second : List Record} (same : first.Perm second) :
    exactTotal first = exactTotal second :=
  (same.filterMap Record.bytes?).sum_eq

/-- Whether a sum is brought back to the limit at every step or once at the end is the same. -/
theorem foldl_addSizes {start : Nat} (within : start ≤ Size.limit) (sizes : List Nat) :
    sizes.foldl addSizes start = min Size.limit (start + sizes.sum) := by
  induction sizes generalizing start with
  | nil => exact (Nat.min_eq_right within).symm
  | cons size rest ih =>
      have stays : addSizes start size ≤ Size.limit := Nat.min_le_left _ _
      rw [List.foldl_cons, ih stays, addSizes, List.sum_cons]
      -- Either the sum is at the limit already, or nothing has been cut off yet.
      rcases Nat.le_total (start + size) Size.limit with fits | passes
      · rw [Nat.min_eq_right fits, Nat.add_assoc]
      · rw [Nat.min_eq_left passes, Nat.min_eq_left (Nat.le_add_right _ _), ← Nat.add_assoc,
          Nat.min_eq_left (Nat.le_trans passes (Nat.le_add_right _ _))]

theorem totalSize_eq (table : Table) :
    table.totalSize = min Size.limit (exactTotal table.toList) := by
  rw [totalSize, foldl_addSizes (Nat.zero_le _), Nat.zero_add, exactTotal]

theorem totalSize_le_push (table : Table) (record : Record) :
    table.totalSize ≤ (table.push record).totalSize := by
  rw [totalSize_eq, totalSize_eq, toList_push, exactTotal_append]
  exact min_le_min_left _ (Nat.le_add_right _ _)

/-- Totals that have been cut off add up to the total that would have been cut off. -/
theorem totalSize_of_append {table first second : Table}
    (joined : table.toList = first.toList ++ second.toList) :
    table.totalSize = addSizes first.totalSize second.totalSize := by
  rw [totalSize_eq, totalSize_eq, totalSize_eq, joined, exactTotal_append, addSizes]
  omega

/-- The total is the exact sum of the sizes that are numerals within the limit, or the limit where
the sum is greater.  It is the same in every order of the records, does not fall when a record is
added, and is the sum of the totals of two parts, brought back to the limit again. -/
theorem totalSize_saturates (table : Table) :
    table.totalSize = min (2 ^ 64 - 1) (exactTotal table.toList) ∧
      (∀ other : Table, other.toList.Perm table.toList → other.totalSize = table.totalSize) ∧
      (∀ record, table.totalSize ≤ (table.push record).totalSize) ∧
      ∀ first second : Table, table.toList = first.toList ++ second.toList →
        table.totalSize = min (2 ^ 64 - 1) (first.totalSize + second.totalSize) := by
  constructor
  · rw [totalSize_eq, Size.limit_eq]
  constructor
  · intro other same
    rw [totalSize_eq, totalSize_eq, exactTotal_of_perm same]
  constructor
  · exact totalSize_le_push table
  · intro first second joined
    rw [totalSize_of_append joined, addSizes, Size.limit_eq]

/-- The sum passes the limit in the middle, and sizes that do not count stand on both sides. -/
theorem totalSize_saturates_midway :
    let odd : Record := ⟨['A'], "٣".toList⟩
    let small : Record := ⟨['B'], "+02".toList⟩
    let most : Record := ⟨['C'], "18446744073709551614".toList⟩
    let huge : Record := ⟨['D'], "18446744073709551616".toList⟩
    let first := ofRecords [odd, most, small]
    let second := ofRecords [small, huge]
    let table := ofRecords [odd, most, small, small, huge]
    let other := ofRecords [small, huge, odd, small, most]
    table.toList = first.toList ++ second.toList ∧ other.toList.Perm table.toList ∧
      table.totalSize = 18446744073709551615 ∧ other.totalSize = 18446744073709551615 ∧
      first.totalSize = 18446744073709551615 ∧ second.totalSize = 2 ∧
      min (2 ^ 64 - 1) (first.totalSize + second.totalSize) = 18446744073709551615 := by
  intro odd small most huge first second table other
  have joined : table.toList = first.toList ++ second.toList := by
    simp only [table, first, second, toList_ofRecords, List.cons_append, List.nil_append]
  have same : other.toList.Perm table.toList := by
    simp only [table, other, toList_ofRecords]
    decide
  have total : table.totalSize = 18446744073709551615 := by
    rw [(totalSize_saturates table).1, toList_ofRecords]
    decide
  obtain ⟨_, reordered, _, parts⟩ := totalSize_saturates table
  refine ⟨joined, same, total, ?_, ?_, ?_, ?_⟩
  · rw [reordered other same, total]
  · rw [(totalSize_saturates first).1, toList_ofRecords]
    decide
  · rw [(totalSize_saturates second).1, toList_ofRecords]
    decide
  · rw [← parts first second joined, total]

end ClassSizes.Table
