import Propositional.Formula.Basic

/-!
# Truth tables

The truth value of a formula under an assignment to its atoms, and the table of
all assignments. The distinct labels, sorted, are the columns, and the rows
count up in binary with the first label as the most significant digit.

> `eval_substitute`: replacing an atom changes the value as assigning it the
> value of the replacement does.
-/

namespace Propositional.Formula

/-- The truth value under an assignment of the atoms. -/
def eval (assignment : String → Bool) : Formula → Bool
  | atom label => assignment label
  | negation operand => !operand.eval assignment
  | binary op left right => op.apply (left.eval assignment) (right.eval assignment)

/-- The distinct labels, in the order of their code points. -/
def sortedLabels (formula : Formula) : List String :=
  formula.labels.eraseDups.mergeSort (fun a b => !decide (b < a))

/-- The assignment of a row: the label in the last column takes the lowest
binary digit of the row number, and each one before it the next higher digit. -/
def rowAssignment (columns : List String) (row : Nat) (label : String) : Bool :=
  row.testBit (columns.length - 1 - columns.idxOf label)

/-- The values of all rows, in the order of the row numbers. -/
def truthRows (formula : Formula) : List Bool :=
  let columns := formula.sortedLabels
  (List.range (Nat.pow 2 columns.length)).map fun row => formula.eval (rowAssignment columns row)

/-- The digit of a truth value. -/
def truthDigit (value : Bool) : Char := if value then '1' else '0'

/-- The truth table as one digit per row. -/
def truthTable (formula : Formula) : String :=
  String.ofList (formula.truthRows.map truthDigit)

theorem eval_substitute (formula replacement : Formula) (label : String)
    (assignment : String → Bool) :
    (substitute label replacement formula).eval assignment =
      formula.eval fun other =>
        if other = label then replacement.eval assignment else assignment other := by
  induction formula with
  | atom other =>
    simp only [substitute, eval]
    split <;> rfl
  | negation operand ih => simp [substitute, eval, ih]
  | binary op left right ihl ihr => simp [substitute, eval, ihl, ihr]

end Propositional.Formula
