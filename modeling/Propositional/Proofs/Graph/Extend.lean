import Propositional.Graph.Attach

/-!
# Graphs with further nodes

A graph grows at its end: the nodes that are there keep their numbers, and new
ones take the numbers that follow. `Graph.extend` adds several nodes at once,
links included, and `Graph.Holds` says that some nodes stand in a graph with
consecutive numbers.

> `node?_extend`: what a number stands for after an extension.
> `modify_extend_of_lt`, `modify_extend_size`: a change reaches an old node
> through the extension, or the first of the new ones.
-/

namespace Propositional.Graph

/-- The graph with further nodes behind its own. -/
def extend (graph : Graph) (nodes : List Node) : Graph := ⟨graph.nodes ++ nodes.toArray⟩

/-- The nodes stand in the graph one after the other, from a number on. -/
def Holds (graph : Graph) (first : NodeId) (nodes : List Node) : Prop :=
  ∀ k node, nodes[k]? = some node → graph.node? (first + k) = some node

theorem ext_node? {a b : Graph} (h : ∀ id, a.node? id = b.node? id) : a = b := by
  obtain ⟨nodesA⟩ := a
  obtain ⟨nodesB⟩ := b
  congr 1
  exact Array.ext_getElem? h

@[simp]
theorem size_extend (graph : Graph) (nodes : List Node) :
    (graph.extend nodes).size = graph.size + nodes.length := by
  simp [size, extend]

theorem node?_extend (graph : Graph) (nodes : List Node) (id : Nat) :
    (graph.extend nodes).node? id =
      if id < graph.size then graph.node? id else nodes[id - graph.size]? := by
  simp only [node?, extend, size, Array.getElem?_append, List.getElem?_toArray]
  rfl

theorem holds_extend {graph : Graph} {first : NodeId} (h : first = graph.size)
    (nodes : List Node) : (graph.extend nodes).Holds first nodes := by
  subst h
  intro k node hk
  rw [node?_extend, if_neg (Nat.not_lt.2 (Nat.le_add_right _ _)), Nat.add_sub_cancel_left]
  exact hk

theorem push_eq_extend (graph : Graph) (kind : Kind) :
    graph.push kind = graph.extend [.fresh kind] := by
  simp [push, extend]

theorem extend_extend (graph : Graph) (front back : List Node) :
    (graph.extend front).extend back = graph.extend (front ++ back) := by
  simp [extend, Array.append_assoc]

/-- A change to one of the old nodes reaches it through the new ones. -/
theorem modify_extend_of_lt {graph : Graph} {id : NodeId} (h : id < graph.size)
    (change : Node → Node) (nodes : List Node) :
    (graph.extend nodes).modify id change = (graph.modify id change).extend nodes := by
  refine ext_node? fun other => ?_
  simp only [node?_modify, node?_extend, size_modify]
  by_cases hother : other = id
  · subst hother
    rw [if_pos rfl, if_pos h, if_pos h, if_pos rfl]
  · rw [if_neg hother, if_neg hother]

/-- A change to the first of the new nodes changes that node alone. -/
theorem modify_extend_size {graph : Graph} {id : NodeId} (h : id = graph.size)
    (change : Node → Node) (node : Node) (nodes : List Node) :
    (graph.extend (node :: nodes)).modify id change = graph.extend (change node :: nodes) := by
  subst h
  refine ext_node? fun (other : Nat) => ?_
  simp only [node?_modify, node?_extend]
  by_cases hother : other = graph.size
  · subst hother
    simp
  · rw [if_neg hother]
    by_cases hlt : other < graph.size
    · rw [if_pos hlt, if_pos hlt]
    · obtain ⟨k, hk⟩ : ∃ k, other - graph.size = k + 1 := ⟨other - graph.size - 1, by omega⟩
      rw [if_neg hlt, if_neg hlt, hk]
      rfl

theorem holds_cons {graph : Graph} {first : NodeId} {node : Node} {nodes : List Node} :
    graph.Holds first (node :: nodes) ↔
      graph.node? first = some node ∧ graph.Holds (first + 1) nodes := by
  constructor
  · intro h
    refine ⟨h 0 node rfl, fun k other hk => ?_⟩
    rw [Nat.add_right_comm]
    exact h (k + 1) other hk
  · intro h
    obtain ⟨hnode, hnodes⟩ := h
    intro k other hk
    cases k with
    | zero =>
      cases hk
      exact hnode
    | succ k =>
      have hrest := hnodes k other hk
      rwa [Nat.add_right_comm] at hrest

theorem holds_append {graph : Graph} {first : NodeId} {front back : List Node} :
    graph.Holds first (front ++ back) ↔
      graph.Holds first front ∧ graph.Holds (first + front.length) back := by
  induction front generalizing first with
  | nil => simp [Holds]
  | cons node front ih =>
    rw [List.cons_append, holds_cons, holds_cons, ih, and_assoc, List.length_cons,
      Nat.add_right_comm, Nat.add_assoc]

/-- Linking a new node to an old one is filling the slot and adding the node with
its parent. -/
theorem link_push {graph : Graph} {parent : NodeId} (h : parent < graph.size) (slot : Slot)
    (kind : Kind) :
    (graph.push kind).link parent slot graph.size =
      (graph.modify parent fun node => node.withChild slot graph.size).extend
        [⟨kind, some parent, none, none⟩] := by
  rw [link, push_eq_extend, modify_extend_size rfl, modify_extend_of_lt h]
  rfl

end Propositional.Graph
