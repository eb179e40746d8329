import Propositional.Graph.Walk

/-!
# Folding a graph from its leaves up

A value for a node is computed from the values of its children. The nodes are
taken in the reverse of the order in which a walk meets them, so that children
come before their parents, and each value is kept in a table under the number
of its node. No recursion is needed, however deep the graph is.

There is no value where the table lacks a child's entry, as it must inside a
cycle.
-/

namespace Propositional.Graph

variable {β : Type}

/-- The entry for a slot: none for an empty slot, else the value of the child,
which has to be in the table. -/
def lookup (table : Array (Option β)) : Option NodeId → Option (Option β)
  | none => some none
  | some id => (table.getD id none).map some

/-- Enters the value of one node. -/
def enter (graph : Graph) (value : Kind → Option β → Option β → Option β)
    (table : Array (Option β)) (id : NodeId) : Option (Array (Option β)) := do
  let node ← graph.node? id
  let left ← lookup table node.left
  let right ← lookup table node.right
  let result ← value node.kind left right
  return table.setIfInBounds id (some result)

/-- The value of a node, computed from the values of its children. -/
def foldUp (graph : Graph) (value : Kind → Option β → Option β → Option β)
    (start : NodeId) : Option β := do
  let table ← (graph.preorder start).reverse.foldlM (graph.enter value)
    (Array.replicate graph.size none)
  table.getD start none

end Propositional.Graph
