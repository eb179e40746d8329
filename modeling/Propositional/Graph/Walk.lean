import Propositional.Graph.Basic

/-!
# Walking a graph

A walk visits a node and then its descendants, each before its own children and
the left ones before the right. It is driven by a stack and follows the links
blindly, so inside a cycle it never ends, and it is cut after a given number of
visits. A walk that meets no node twice is over after as many visits as there
are nodes: that is the limit of `preorder`.

`Traversal` states the order by recursion on what lies below a place, without a
stack or a limit. A place from which a cycle can be reached has no traversal.
-/

namespace Propositional.Graph

/-- Visits the top of the stack and puts its children there in its place, at
most `limit` times. -/
def walkFrom (graph : Graph) : (limit : Nat) → (stack : List NodeId) → List NodeId
  | 0, _ => []
  | _ + 1, [] => []
  | limit + 1, id :: stack => id :: graph.walkFrom limit (graph.children id ++ stack)

/-- The first `limit` nodes of the walk from a node. -/
def walk (graph : Graph) (start : NodeId) (limit : Nat) : List NodeId :=
  graph.walkFrom limit [start]

/-- The walk from a node, cut at the number of nodes there are. -/
def preorder (graph : Graph) (start : NodeId) : List NodeId :=
  graph.walk start graph.size

/-- The nodes at and below a place: the node itself, then those on its left,
then those on its right. -/
inductive Traversal (graph : Graph) : Option NodeId → List NodeId → Prop
  | missing : Traversal graph none []
  | node {id : NodeId} {node : Node} {lefts rights : List NodeId}
      (hnode : graph.node? id = some node) (hleft : Traversal graph node.left lefts)
      (hright : Traversal graph node.right rights) :
      Traversal graph (some id) (id :: (lefts ++ rights))

/-- A place has at most one traversal. -/
theorem Traversal.unique {graph : Graph} {place : Option NodeId} {a b : List NodeId}
    (ha : graph.Traversal place a) (hb : graph.Traversal place b) : a = b := by
  induction ha generalizing b with
  | missing => cases hb; rfl
  | node hnode _ _ ihl ihr =>
    cases hb with
    | node hnode' hl hr =>
      rw [hnode] at hnode'
      cases hnode'
      rw [ihl hl, ihr hr]

end Propositional.Graph
