import Mathlib.Algebra.Group.Nat.Defs
import Mathlib.Data.List.Nodup
import Propositional.Formula.Truth

/-!
# What the digits of a truth table say

A row number is an assignment written in binary, one digit for each column. So the
table has as many digits as there are assignments of the columns, and each of them is
the value under the assignment that its position spells.

> `pairwise_sortedLabels`: the columns are in increasing order, so none is there twice.
> `eval_congr`: assignments that agree on the columns give the same value.
> `getElem?_truthTable`: the digit of a row is the value under its assignment.
-/

namespace Propositional.Formula

/-- The value depends on the labels in the formula alone. -/
theorem eval_congr {formula : Formula} {a b : String → Bool}
    (h : ∀ label ∈ formula.labels, a label = b label) : formula.eval a = formula.eval b := by
  induction formula with
  | atom label => exact h label (List.mem_singleton_self label)
  | negation operand ih => rw [eval, eval, ih h]
  | binary op left right ihl ihr =>
    rw [labels, List.forall_mem_append] at h
    rw [eval, eval, ihl h.1, ihr h.2]

/-! ## Columns -/

theorem nodup_eraseDups (labels : List String) : labels.eraseDups.Nodup := by
  cases labels with
  | nil => exact List.nodup_nil
  | cons label rest =>
    rw [List.eraseDups_cons, List.nodup_cons]
    constructor
    · simp [List.mem_eraseDups]
    · exact nodup_eraseDups (rest.filter fun other => !other == label)
termination_by labels.length
decreasing_by exact Nat.lt_succ_of_le (List.length_filter_le _ _)

theorem mem_sortedLabels {formula : Formula} {label : String} :
    label ∈ formula.sortedLabels ↔ label ∈ formula.labels := by
  rw [sortedLabels, List.mem_mergeSort, List.mem_eraseDups]

/-- The columns are in increasing order, so none is there twice. -/
theorem pairwise_sortedLabels (formula : Formula) : formula.sortedLabels.Pairwise (· < ·) := by
  have hsorted : formula.sortedLabels.Pairwise fun a b => (!decide (b < a)) = true := by
    refine List.pairwise_mergeSort (fun a b c hab hbc => ?_) (fun a b => ?_) _
    · simp only [Bool.not_eq_true', decide_eq_false_iff_not, String.not_lt] at hab hbc ⊢
      exact String.le_trans hab hbc
    · simp only [Bool.or_eq_true, Bool.not_eq_true', decide_eq_false_iff_not, String.not_lt]
      exact String.le_total a b
  have hnodup : formula.sortedLabels.Nodup :=
    (List.mergeSort_perm _ _).nodup_iff.2 (nodup_eraseDups formula.labels)
  refine hsorted.imp₂ (fun a b hle hne => ?_) hnodup
  simp only [Bool.not_eq_true', decide_eq_false_iff_not, String.not_lt] at hle
  exact Std.lt_of_le_of_ne hle hne

/-! ## Rows -/

/-- The assignment gives every column its digit of the row number: the last column
the lowest one, and each column before it the next higher one. -/
def RowOf (columns : List String) (row : Nat) (assignment : String → Bool) : Prop :=
  ∀ (k : Nat) (label : String), columns[k]? = some label →
    assignment label = row.testBit (columns.length - (k + 1))

theorem rowOf_rowAssignment {columns : List String} (h : columns.Nodup) (row : Nat) :
    RowOf columns row (rowAssignment columns row) := by
  intro k label hlabel
  obtain ⟨hk, rfl⟩ := List.getElem?_eq_some_iff.1 hlabel
  rw [rowAssignment, h.idxOf_getElem, Nat.sub_sub, Nat.add_comm 1]

/-- All assignments of one row give the same value. -/
theorem eval_eq_of_rowOf {formula : Formula} {row : Nat} {a b : String → Bool}
    (ha : RowOf formula.sortedLabels row a) (hb : RowOf formula.sortedLabels row b) :
    formula.eval a = formula.eval b := by
  refine eval_congr fun label hlabel => ?_
  obtain ⟨k, hk⟩ := List.getElem?_of_mem (mem_sortedLabels.2 hlabel)
  rw [ha k label hk, hb k label hk]

theorem length_truthTable (formula : Formula) :
    formula.truthTable.toList.length = 2 ^ formula.sortedLabels.length := by
  simp [truthTable, truthRows]

/-- The digit of a row is the value under its assignment. -/
theorem getElem?_truthTable {formula : Formula} {row : Nat} {assignment : String → Bool}
    (hrow : row < 2 ^ formula.sortedLabels.length)
    (h : RowOf formula.sortedLabels row assignment) :
    formula.truthTable.toList[row]? = some (truthDigit (formula.eval assignment)) := by
  have hnodup : formula.sortedLabels.Nodup := formula.pairwise_sortedLabels.imp String.ne_of_lt
  have hvalue := eval_eq_of_rowOf (rowOf_rowAssignment hnodup row) h
  simp [truthTable, truthRows, hrow, hvalue]

end Propositional.Formula
