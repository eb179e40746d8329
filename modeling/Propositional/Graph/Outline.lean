import Propositional.Graph.Basic

/-!
# Outlines

What a node and its descendants look like when the numbers of the nodes are
forgotten: a tree of kinds with some places left empty. `HasOutline graph place
outline` relates a place of a graph, that is, a slot's content, to its outline.
A node from which a cycle can be reached has none.
-/

namespace Propositional

/-- A tree of kinds in which children may be missing. -/
inductive Outline
  | missing
  | node (kind : Kind) (left right : Outline)
deriving DecidableEq

/-- What stands at a place of a graph has the given outline. -/
inductive Graph.HasOutline (graph : Graph) : Option NodeId → Outline → Prop
  | missing : HasOutline graph none .missing
  | node {id : NodeId} {node : Node} {left right : Outline}
      (hnode : graph.node? id = some node) (hleft : HasOutline graph node.left left)
      (hright : HasOutline graph node.right right) :
      HasOutline graph (some id) (.node node.kind left right)

/-- A place of a graph has at most one outline. -/
theorem Graph.HasOutline.unique {graph : Graph} {place : Option NodeId} {a b : Outline}
    (ha : graph.HasOutline place a) (hb : graph.HasOutline place b) : a = b := by
  induction ha generalizing b with
  | missing => cases hb; rfl
  | node hnode _ _ ihl ihr =>
    cases hb with
    | node hnode' hl hr =>
      rw [hnode] at hnode'
      cases hnode'
      rw [ihl hl, ihr hr]

end Propositional
