import Propositional.Formula.Basic
import Propositional.Graph.Fold

/-!
# The formula of a node

A node stands for a formula if it is an atom, a connective whose operands all
stand for formulas, or a root that holds one. Generic nodes and unfinished ones
stand for nothing.
-/

namespace Propositional

/-- The formula of a node of a kind, given those of its children. -/
def Kind.formula? : Kind → Option Formula → Option Formula → Option Formula
  | .root, left, _ => left
  | .atom label, _, _ => some (.atom label)
  | .connective .negation, _, right => right.map .negation
  | .connective (.binary op), some left, some right => some (.binary op left right)
  | .connective (.binary _), _, _ => none
  | .plain, _, _ => none
  | .pair, _, _ => none

/-- The formula that a node stands for. -/
def Graph.formula? (graph : Graph) (id : NodeId) : Option Formula :=
  graph.foldUp Kind.formula? id

end Propositional
