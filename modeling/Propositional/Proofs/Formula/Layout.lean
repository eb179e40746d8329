import Propositional.Formula.Basic
import Propositional.Graph.Outline
import Propositional.Proofs.Graph.Extend

/-!
# The nodes of a formula

There is one way to lay out a formula as nodes with consecutive numbers: each
connective before its operands, the left operand before the right one, and all
links in place. `Formula.nodes` lists these nodes, and `Graph.plant` is a graph
to which they have been added below a node that had a slot to fill. With a root
above them they are `Graph.withFormula`.

> `plant_negation`, `plant_binary`: planting a connective is adding its one
> node and planting the operands below it, the left one first.
> `hasOutline_of_holds`: nodes laid out like this have the outline of the formula.
-/

namespace Propositional

/-- The nodes of a formula in the order of a walk, the topmost one with the
number `first` and as a child of `parent`. -/
def Formula.nodes : Formula → (parent first : NodeId) → List Node
  | atom label, parent, _ => [⟨.atom label, some parent, none, none⟩]
  | negation operand, parent, first =>
    ⟨.connective .negation, some parent, none, some (first + 1)⟩ ::
      operand.nodes first (first + 1)
  | binary op left right, parent, first =>
    ⟨.connective (.binary op), some parent, some (first + 1), some (first + 1 + left.size)⟩ ::
      (left.nodes first (first + 1) ++ right.nodes first (first + 1 + left.size))

/-- The outline of the nodes of a formula. -/
def Formula.outline : Formula → Outline
  | atom label => .node (.atom label) .missing .missing
  | negation operand => .node (.connective .negation) .missing operand.outline
  | binary op left right => .node (.connective (.binary op)) left.outline right.outline

@[simp]
theorem Formula.length_nodes (formula : Formula) (parent first : NodeId) :
    (formula.nodes parent first).length = formula.size := by
  induction formula generalizing parent first with
  | atom label => rfl
  | negation operand ih => simp [nodes, size, ih]
  | binary op left right ihl ihr => simp [nodes, size, ihl, ihr]

namespace Graph

/-- The graph with one more node, linked as a child of a slot of another one. -/
def sprout (graph : Graph) (parent : NodeId) (slot : Slot) (kind : Kind) : Graph :=
  (graph.modify parent fun node => node.withChild slot graph.size).extend
    [⟨kind, some parent, none, none⟩]

/-- The graph with the nodes of a formula added, as a child of a slot. -/
def plant (graph : Graph) (parent : NodeId) (slot : Slot) (formula : Formula) : Graph :=
  (graph.modify parent fun node => node.withChild slot graph.size).extend
    (formula.nodes parent graph.size)

theorem size_sprout (graph : Graph) (parent : NodeId) (slot : Slot) (kind : Kind) :
    (graph.sprout parent slot kind).size = graph.size + 1 := by
  simp [sprout]

/-- The new node is there, without children. -/
theorem node?_sprout (graph : Graph) (parent : NodeId) (slot : Slot) (kind : Kind) :
    (graph.sprout parent slot kind).node? graph.size = some ⟨kind, some parent, none, none⟩ :=
  (holds_cons.1 (holds_extend (size_modify ..).symm _)).1

theorem plant_negation (graph : Graph) (parent : NodeId) (slot : Slot) (operand : Formula) :
    graph.plant parent slot (.negation operand) =
      (graph.sprout parent slot (.connective .negation)).plant graph.size .right operand := by
  rw [plant, plant, size_sprout, sprout, modify_extend_size (size_modify ..).symm, extend_extend]
  rfl

/-- The node of a binary connective after its left operand has been planted. -/
theorem plant_left (graph : Graph) (parent : NodeId) (slot : Slot) (op : BinaryConnective)
    (left : Formula) :
    (graph.sprout parent slot (.connective (.binary op))).plant graph.size .left left =
      (graph.modify parent fun node => node.withChild slot graph.size).extend
        (⟨.connective (.binary op), some parent, some (graph.size + 1), none⟩ ::
          left.nodes graph.size (graph.size + 1)) := by
  rw [plant, size_sprout, sprout, modify_extend_size (size_modify ..).symm, extend_extend]
  rfl

theorem node?_plant_left (graph : Graph) (parent : NodeId) (slot : Slot) (op : BinaryConnective)
    (left : Formula) :
    ((graph.sprout parent slot (.connective (.binary op))).plant graph.size .left left).node?
        graph.size =
      some ⟨.connective (.binary op), some parent, some (graph.size + 1), none⟩ := by
  rw [plant_left]
  exact (holds_cons.1 (holds_extend (size_modify ..).symm _)).1

theorem plant_binary (graph : Graph) (parent : NodeId) (slot : Slot) (op : BinaryConnective)
    (left right : Formula) :
    graph.plant parent slot (.binary op left right) =
      ((graph.sprout parent slot (.connective (.binary op))).plant graph.size .left left).plant
        graph.size .right right := by
  have hsize : ((graph.sprout parent slot (.connective (.binary op))).plant graph.size .left
      left).size = graph.size + 1 + left.size := by
    simp [plant_left, Nat.add_assoc, Nat.add_comm 1]
  rw [plant, plant, hsize, plant_left, modify_extend_size (size_modify ..).symm, extend_extend]
  rfl

/-- Nodes laid out like those of a formula have its outline. -/
theorem hasOutline_of_holds {graph : Graph} {formula : Formula} :
    ∀ {parent first : NodeId}, graph.Holds first (formula.nodes parent first) →
      graph.HasOutline (some first) formula.outline := by
  induction formula with
  | atom label =>
    intro parent first h
    exact .node (holds_cons.1 h).1 .missing .missing
  | negation operand ih =>
    intro parent first h
    obtain ⟨hnode, hoperand⟩ := holds_cons.1 h
    exact .node hnode .missing (ih hoperand)
  | binary op left right ihl ihr =>
    intro parent first h
    obtain ⟨hnode, hoperands⟩ := holds_cons.1 h
    obtain ⟨hleft, hright⟩ := holds_append.1 hoperands
    rw [Formula.length_nodes] at hright
    exact .node hnode (ihl hleft) (ihr hright)

/-! ## The graph of a formula -/

/-- The graph with a new root and a formula as its only child. -/
def withFormula (graph : Graph) (formula : Formula) : Graph :=
  graph.extend (⟨.root, none, some (graph.size + 1), none⟩ ::
    formula.nodes graph.size (graph.size + 1))

/-- The root comes first, and its child and what is below that stand behind it. -/
theorem holds_withFormula (graph : Graph) (formula : Formula) :
    (graph.withFormula formula).node? graph.size =
        some ⟨.root, none, some (graph.size + 1), none⟩ ∧
      (graph.withFormula formula).Holds (graph.size + 1)
        (formula.nodes graph.size (graph.size + 1)) :=
  holds_cons.1 (holds_extend rfl _)

theorem plant_root (graph : Graph) (formula : Formula) :
    (graph.push .root).plant graph.size .left formula = graph.withFormula formula := by
  rw [plant, size_push, push_eq_extend, modify_extend_size rfl, extend_extend]
  rfl

/-- The root of a formula has the formula on its left and nothing else below it. -/
theorem hasOutline_withFormula (graph : Graph) (formula : Formula) :
    (graph.withFormula formula).HasOutline (some graph.size)
      (.node .root formula.outline .missing) := by
  obtain ⟨hroot, hformula⟩ := graph.holds_withFormula formula
  exact .node hroot (hasOutline_of_holds hformula) .missing

end Graph

end Propositional
