import Propositional.Graph.Basic

/-!
# Evaluating the nodes of a graph

An evaluation visits a node and does with it what its kind asks for: a root is
passed through to what it holds, an atom is looked up in the assignment, and a
connective is applied to the values of its operands. `Evaluates assignment id
value` relates a node to the value of such a visit. A node that lacks an operand
has none, nor has one from which a cycle can be reached.
-/

namespace Propositional

/-- Visiting a node under an assignment of the labels gives the value. -/
inductive Graph.Evaluates (graph : Graph) (assignment : String → Bool) : NodeId → Bool → Prop
  | root {id held : NodeId} {parent right : Option NodeId} {value : Bool}
      (hnode : graph.node? id = some ⟨.root, parent, some held, right⟩)
      (hheld : Evaluates graph assignment held value) :
      Evaluates graph assignment id value
  | atom {id : NodeId} {label : String} {parent left right : Option NodeId}
      (hnode : graph.node? id = some ⟨.atom label, parent, left, right⟩) :
      Evaluates graph assignment id (assignment label)
  | negation {id operand : NodeId} {parent left : Option NodeId} {value : Bool}
      (hnode : graph.node? id = some ⟨.connective .negation, parent, left, some operand⟩)
      (hoperand : Evaluates graph assignment operand value) :
      Evaluates graph assignment id (!value)
  | binary {id left right : NodeId} {op : BinaryConnective} {parent : Option NodeId}
      {before behind : Bool}
      (hnode : graph.node? id = some ⟨.connective (.binary op), parent, some left, some right⟩)
      (hleft : Evaluates graph assignment left before)
      (hright : Evaluates graph assignment right behind) :
      Evaluates graph assignment id (op.apply before behind)

/-- A node has at most one value. -/
theorem Graph.Evaluates.unique {graph : Graph} {assignment : String → Bool} {id : NodeId}
    {a b : Bool} (ha : graph.Evaluates assignment id a) (hb : graph.Evaluates assignment id b) :
    a = b := by
  induction ha generalizing b with
  | root hnode _ ih =>
    cases hb with
    | root hnode' hheld =>
      cases hnode.symm.trans hnode'
      exact ih hheld
    | _ hnode' => cases hnode.symm.trans hnode'
  | atom hnode =>
    cases hb with
    | atom hnode' =>
      cases hnode.symm.trans hnode'
      rfl
    | _ hnode' => cases hnode.symm.trans hnode'
  | negation hnode _ ih =>
    cases hb with
    | negation hnode' hoperand =>
      cases hnode.symm.trans hnode'
      rw [ih hoperand]
    | _ hnode' => cases hnode.symm.trans hnode'
  | binary hnode _ _ ihl ihr =>
    cases hb with
    | binary hnode' hleft hright =>
      cases hnode.symm.trans hnode'
      rw [ihl hleft, ihr hright]
    | _ hnode' => cases hnode.symm.trans hnode'

end Propositional
