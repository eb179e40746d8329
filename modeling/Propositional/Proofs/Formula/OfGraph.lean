import Propositional.Formula.OfGraph
import Propositional.Proofs.Formula.Layout
import Propositional.Proofs.Graph.Fold

/-!
# The formula comes back

The nodes that a formula is laid out as stand for that formula again: the walk
from the topmost one takes them in the order of their numbers, and folding the
outline rebuilds the formula.

> `Formula.isPart_of_mem_nodes`: every node of a formula has all of its operands.
> `traversal_of_holds`: the nodes of a formula are met in the order in which they
> are numbered, so none is met twice.
> `formula?_withFormula`: the root of a formula stands for it.
-/

namespace Propositional

/-- Folding the outline of a formula rebuilds the formula. -/
theorem Formula.fold?_outline (formula : Formula) :
    formula.outline.fold? Kind.formula? = some (some formula) := by
  induction formula with
  | atom label => rfl
  | negation operand ih =>
    rw [outline, Outline.fold?, Outline.fold?, ih]
    rfl
  | binary op left right ihl ihr =>
    rw [outline, Outline.fold?, ihl, ihr]
    rfl

/-- A node below a root, of one of the kinds that occur in formulas and with all of
its operands: none of an atom, that of a negation on the right, those of a binary
connective on both sides. -/
inductive Node.IsPart : Node → Prop
  | atom (label : String) (parent : NodeId) : IsPart ⟨.atom label, some parent, none, none⟩
  | negation (parent operand : NodeId) :
      IsPart ⟨.connective .negation, some parent, none, some operand⟩
  | binary (op : BinaryConnective) (parent left right : NodeId) :
      IsPart ⟨.connective (.binary op), some parent, some left, some right⟩

theorem Node.IsPart.tidy {node : Node} (h : node.IsPart) : node.Tidy := by
  intro slot hslot
  cases h with
  | atom label parent => cases slot <;> cases hslot
  | negation parent operand =>
    cases slot with
    | left => cases hslot
    | right => exact List.mem_singleton_self Slot.right
  | binary op parent left right =>
    cases slot with
    | left => exact List.mem_cons_self
    | right => exact List.mem_cons_of_mem Slot.left List.mem_cons_self

/-- No node of a formula lacks an operand. -/
theorem Formula.isPart_of_mem_nodes {formula : Formula} {node : Node} :
    ∀ {parent first : NodeId}, node ∈ formula.nodes parent first → node.IsPart := by
  induction formula with
  | atom label =>
    intro parent first h
    cases List.mem_singleton.1 h
    exact .atom label parent
  | negation operand ih =>
    intro parent first h
    rcases List.mem_cons.1 h with rfl | hbelow
    · exact .negation parent _
    · exact ih hbelow
  | binary op left right ihl ihr =>
    intro parent first h
    rcases List.mem_cons.1 h with rfl | hbelow
    · exact .binary op parent _ _
    · rcases List.mem_append.1 hbelow with hleft | hright
      · exact ihl hleft
      · exact ihr hright

namespace Graph

theorem Tidy.withFormula {graph : Graph} (h : graph.Tidy) (formula : Formula) :
    (graph.withFormula formula).Tidy := by
  refine h.extend fun node hnode => ?_
  rcases List.mem_cons.1 hnode with rfl | hbelow
  · intro slot hslot
    cases slot with
    | left => exact List.mem_singleton_self Slot.left
    | right => cases hslot
  · exact (Formula.isPart_of_mem_nodes hbelow).tidy

/-- A walk over the nodes of a formula counts upward. -/
theorem traversal_of_holds {graph : Graph} {formula : Formula} :
    ∀ {parent first : NodeId}, graph.Holds first (formula.nodes parent first) →
      graph.Traversal (some first) (List.range' first formula.size) := by
  induction formula with
  | atom label =>
    intro parent first h
    exact .node (holds_cons.1 h).1 .missing .missing
  | negation operand ih =>
    intro parent first h
    obtain ⟨hnode, hoperand⟩ := holds_cons.1 h
    rw [Formula.size, List.range'_succ]
    exact .node hnode .missing (ih hoperand)
  | binary op left right ihl ihr =>
    intro parent first h
    obtain ⟨hnode, hoperands⟩ := holds_cons.1 h
    obtain ⟨hleft, hright⟩ := holds_append.1 hoperands
    rw [Formula.length_nodes] at hright
    rw [Formula.size, List.range'_succ, ← List.range'_append_1]
    exact .node hnode (ihl hleft) (ihr hright)

/-- The root of a formula comes first, then the nodes of the formula. -/
theorem traversal_withFormula (graph : Graph) (formula : Formula) :
    (graph.withFormula formula).Traversal (some graph.size)
      (List.range' graph.size (formula.size + 1)) := by
  obtain ⟨hroot, hformula⟩ := graph.holds_withFormula formula
  have hbelow := Traversal.node hroot (traversal_of_holds hformula) .missing
  rw [List.append_nil] at hbelow
  rwa [List.range'_succ]

/-- The root of a formula stands for the formula. -/
theorem formula?_withFormula {graph : Graph} (htidy : graph.Tidy) (formula : Formula) :
    (graph.withFormula formula).formula? graph.size = some formula := by
  have hfold : (graph.withFormula formula).formula? graph.size =
      ((Outline.node .root formula.outline .missing).fold? Kind.formula?).join :=
    foldUp_eq_of_traversal (htidy.withFormula formula) (graph.traversal_withFormula formula)
      List.nodup_range' (graph.hasOutline_withFormula formula)
  rw [hfold, Outline.fold?, formula.fold?_outline]
  rfl

end Graph

end Propositional
