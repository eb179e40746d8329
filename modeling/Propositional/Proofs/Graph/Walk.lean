import Propositional.Proofs.Graph.Extend
import Propositional.Graph.Walk

/-!
# A walk takes the nodes in their order

`walkFrom` is driven by a stack and does not know where the nodes below one
place end and those of the next begin. `Traversal` says it by recursion. This
file shows that the two agree as long as no child stands outside the slots of
its parent, which is what `Tidy` asks for.

> `walkFrom_traversal`: a place on top of the stack is walked as its traversal
> says, and then the walk goes on with the rest of the stack.
> `preorder_eq_of_traversal`: where no node is met twice, the limit of
> `preorder` is never reached.
-/

namespace Propositional

/-- Children stand only in slots that the kind of the node has. -/
def Node.Tidy (node : Node) : Prop :=
  ∀ slot, (node.child slot).isSome = true → slot ∈ node.kind.slots

theorem Node.Tidy.child_eq_none {node : Node} (h : node.Tidy) {slot : Slot}
    (hslot : slot ∉ node.kind.slots) : node.child slot = none :=
  Option.not_isSome_iff_eq_none.1 fun hsome => hslot (h slot hsome)

/-- Nothing is left out when the children of a tidy node are read by its kind. -/
theorem Node.Tidy.children_eq {node : Node} (h : node.Tidy) :
    node.children = node.left.toList ++ node.right.toList := by
  have hleft : Slot.left ∉ node.kind.slots → node.left = none := h.child_eq_none
  have hright : Slot.right ∉ node.kind.slots → node.right = none := h.child_eq_none
  have hread : ∀ slot, [slot].filterMap node.child = (node.child slot).toList := by
    intro slot
    cases hchild : node.child slot <;> simp [hchild]
  unfold Node.children Kind.slots at *
  cases hlayout : node.kind.layout with
  | none =>
    rw [hleft (by simp [hlayout, Layout.slots]), hright (by simp [hlayout, Layout.slots])]
    rfl
  | leftOnly =>
    rw [hright (by simp [hlayout, Layout.slots]), Option.toList_none, List.append_nil]
    exact hread .left
  | rightOnly =>
    rw [hleft (by simp [hlayout, Layout.slots]), Option.toList_none, List.nil_append]
    exact hread .right
  | leftAndRight =>
    show ([Slot.left] ++ [Slot.right]).filterMap node.child = _
    rw [List.filterMap_append, hread, hread]
    rfl

namespace Graph

/-- All nodes of the graph are tidy. -/
def Tidy (graph : Graph) : Prop :=
  ∀ id node, graph.node? id = some node → node.Tidy

theorem tidy_empty : empty.Tidy := by
  intro id node hnode
  cases hnode

theorem Tidy.extend {graph : Graph} {nodes : List Node} (h : graph.Tidy)
    (hnodes : ∀ node ∈ nodes, node.Tidy) : (graph.extend nodes).Tidy := by
  intro id node hnode
  rw [node?_extend] at hnode
  split at hnode
  next => exact h id node hnode
  next => exact hnodes node (List.mem_of_getElem? hnode)

/-! ## Traversals -/

/-- A node that stands at a place is among the nodes at and below it. -/
theorem Traversal.mem {graph : Graph} {id : NodeId} {ids : List NodeId}
    (h : graph.Traversal (some id) ids) : id ∈ ids := by
  cases h
  exact List.mem_cons_self

theorem Traversal.lt_size {graph : Graph} {place : Option NodeId} {ids : List NodeId}
    (h : graph.Traversal place ids) : ∀ id ∈ ids, id < graph.size := by
  induction h with
  | missing => exact fun id hid => absurd hid List.not_mem_nil
  | node hnode _ _ ihl ihr =>
    intro other hother
    rcases List.mem_cons.1 hother with rfl | hbelow
    · exact node?_isSome.1 (by rw [hnode]; rfl)
    · rcases List.mem_append.1 hbelow with hleft | hright
      · exact ihl other hleft
      · exact ihr other hright

/-- There are no more nodes below a place than in the whole graph, unless one of
them is met twice. -/
theorem Traversal.length_le {graph : Graph} {place : Option NodeId} {ids : List NodeId}
    (h : graph.Traversal place ids) (hnodup : ids.Nodup) : ids.length ≤ graph.size := by
  have hsub : ids ⊆ List.range graph.size := fun id hid => List.mem_range.2 (h.lt_size id hid)
  calc ids.length ≤ (List.range graph.size).length := hnodup.length_le_of_subset hsub
    _ = graph.size := List.length_range

/-! ## The walk -/

theorem walkFrom_nil (graph : Graph) (limit : Nat) : graph.walkFrom limit [] = [] := by
  cases limit <;> rfl

/-- A place on top of the stack is walked as its traversal says; what the limit
leaves over is for the rest of the stack. -/
theorem walkFrom_traversal {graph : Graph} (htidy : graph.Tidy) {place : Option NodeId}
    {ids : List NodeId} (h : graph.Traversal place ids) (limit : Nat) (stack : List NodeId) :
    graph.walkFrom (ids.length + limit) (place.toList ++ stack) =
      ids ++ graph.walkFrom limit stack := by
  induction h generalizing limit stack with
  | missing => rw [List.length_nil, Nat.zero_add]; rfl
  | @node id node lefts rights hnode _ _ ihl ihr =>
    -- the node is replaced by its children, which are walked one after the other
    have hchildren : graph.children id = node.left.toList ++ node.right.toList := by
      rw [children, hnode]
      exact (htidy id node hnode).children_eq
    have hlength : (id :: (lefts ++ rights)).length + limit =
        lefts.length + (rights.length + limit) + 1 := by
      rw [List.length_cons, List.length_append]
      omega
    calc graph.walkFrom ((id :: (lefts ++ rights)).length + limit) ((some id).toList ++ stack)
        = id :: graph.walkFrom (lefts.length + (rights.length + limit))
            (graph.children id ++ stack) := by
          rw [hlength]
          rfl
      _ = id :: (lefts ++ graph.walkFrom (rights.length + limit)
            (node.right.toList ++ stack)) := by
          rw [hchildren, List.append_assoc, ihl]
      _ = id :: (lefts ++ (rights ++ graph.walkFrom limit stack)) := by rw [ihr]
      _ = id :: (lefts ++ rights) ++ graph.walkFrom limit stack := by
          rw [List.cons_append, List.append_assoc]

/-- The walk from a node whose traversal meets no node twice. -/
theorem preorder_eq_of_traversal {graph : Graph} (htidy : graph.Tidy) {id : NodeId}
    {ids : List NodeId} (h : graph.Traversal (some id) ids) (hnodup : ids.Nodup) :
    graph.preorder id = ids := by
  have hlimit : ids.length + (graph.size - ids.length) = graph.size :=
    Nat.add_sub_cancel' (h.length_le hnodup)
  calc graph.preorder id
      = graph.walkFrom (ids.length + (graph.size - ids.length)) ((some id).toList ++ []) := by
        rw [hlimit]
        rfl
    _ = ids ++ graph.walkFrom (graph.size - ids.length) [] :=
        walkFrom_traversal htidy h (graph.size - ids.length) []
    _ = ids := by rw [walkFrom_nil, List.append_nil]

end Graph

end Propositional
