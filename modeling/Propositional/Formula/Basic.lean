import Propositional.Connective

/-!
# Formulas

A propositional formula: atoms named by their letter, negation, and the four
binary connectives. Grouping leaves no trace in a formula.
-/

namespace Propositional

/-- A propositional formula. -/
inductive Formula
  | atom (label : String)
  | negation (operand : Formula)
  | binary (op : BinaryConnective) (left right : Formula)
deriving DecidableEq

namespace Formula

/-- The number of atoms and connectives. -/
def size : Formula → Nat
  | atom _ => 1
  | negation operand => operand.size + 1
  | binary _ left right => left.size + right.size + 1

/-- The labels of the atoms from left to right, repetitions included. -/
def labels : Formula → List String
  | atom label => [label]
  | negation operand => operand.labels
  | binary _ left right => left.labels ++ right.labels

/-- Puts a formula in the place of every atom of a given label. -/
def substitute (label : String) (replacement : Formula) : Formula → Formula
  | atom other => if other = label then replacement else atom other
  | negation operand => negation (substitute label replacement operand)
  | binary op left right =>
    binary op (substitute label replacement left) (substitute label replacement right)

end Formula

end Propositional
