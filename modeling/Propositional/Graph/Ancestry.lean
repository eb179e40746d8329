import Propositional.Graph.Basic

/-!
# Ancestors

The parent of a node, and by repetition its proper ancestors. Nothing keeps a
node from being an ancestor of itself; such a node lies on a cycle of parent
links.
-/

namespace Propositional.Graph

/-- The node that a node is a child of. -/
def parent? (graph : Graph) (id : NodeId) : Option NodeId :=
  (graph.node? id).bind Node.parent

/-- The first node is a proper ancestor of the second: one or more steps from a
node to its parent lead from the second to the first. -/
inductive Above (graph : Graph) : NodeId → NodeId → Prop
  | parent {upper lower : NodeId} (h : graph.parent? lower = some upper) :
      Above graph upper lower
  | step {upper middle lower : NodeId} (h : graph.parent? lower = some middle)
      (habove : Above graph upper middle) : Above graph upper lower

/-- A node that is a proper ancestor of itself. -/
def OnCycle (graph : Graph) (id : NodeId) : Prop := graph.Above id id

theorem Above.trans {graph : Graph} {a b c : NodeId}
    (hab : graph.Above a b) (hbc : graph.Above b c) : graph.Above a c := by
  induction hbc with
  | parent h => exact .step h hab
  | step h _ ih => exact .step h ih

end Propositional.Graph
