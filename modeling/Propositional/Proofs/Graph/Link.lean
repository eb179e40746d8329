import Propositional.Graph.Ancestry
import Propositional.Graph.Attach
import Propositional.Proofs.Graph.Walk

/-!
# What attaching a node writes

A link is written down twice: the child remembers its parent, and the parent has
the child in a slot. The parent may be the child itself, or stand below it. This
file says what a successful attachment has found, and what each of the two
entries looks like afterwards.

> `attach_eq_ok`: attaching succeeds into a first free slot, for a node without
> parent that is no root.
> `parent?_link`, `child?_link`: one parent and one slot are written, and nothing
> else.
> `FilledInOrder.link`: slots stay filled in order, and the children of a node,
> read from left to right, get one more at the end.
-/

namespace Propositional

/-! ## Attaching, step by step -/

/-- A free slot is one of the kind, is empty, and is the first such slot. -/
theorem Node.freeSlot?_eq_some {node : Node} {slot : Slot} (h : node.freeSlot? = some slot) :
    slot ∈ node.kind.slots ∧ node.child slot = none ∧
      (slot = .right → .left ∈ node.kind.slots → node.left.isSome = true) := by
  have hmem : slot ∈ node.kind.slots := List.mem_of_find?_eq_some h
  have hfree : (node.child slot).isNone = true := by
    simpa using List.find?_some h
  refine ⟨hmem, Option.isNone_iff_eq_none.1 hfree, ?_⟩
  intro hright hleft
  subst hright
  cases hchild : node.left with
  | some child => rfl
  | none =>
    -- the left slot would have been found before the right one
    unfold freeSlot? Kind.slots at h
    unfold Kind.slots at hleft
    cases hlayout : node.kind.layout <;> simp_all [Layout.slots, Node.child]

/-- Slots are filled from the first one on, and nothing stands outside them. -/
structure Node.FilledInOrder (node : Node) : Prop where
  tidy : node.Tidy
  left_of_right : node.right.isSome = true → .left ∈ node.kind.slots → node.left.isSome = true

theorem Node.filledInOrder_fresh (kind : Kind) : (fresh kind).FilledInOrder := by
  refine ⟨?_, ?_⟩
  · intro slot hslot
    cases slot <;> cases hslot
  · intro hright
    cases hright

/-- The first free slot of a node takes the next child. -/
theorem Node.FilledInOrder.withChild {node : Node} {slot : Slot} (h : node.FilledInOrder)
    (hslot : node.freeSlot? = some slot) (id : NodeId) :
    (node.withChild slot id).FilledInOrder ∧
      (node.withChild slot id).children = node.children ++ [id] := by
  obtain ⟨hmem, hempty, hfirst⟩ := freeSlot?_eq_some hslot
  have hfilled : (node.withChild slot id).FilledInOrder := by
    refine ⟨?_, ?_⟩
    · intro other hother
      by_cases heq : other = slot
      · rw [heq]
        cases slot <;> exact hmem
      · have hsame : (node.withChild slot id).child other = node.child other := by
          cases slot <;> cases other <;> first | rfl | exact absurd rfl heq
        rw [hsame] at hother
        cases slot <;> exact h.tidy other hother
    · cases slot with
      | left => exact fun _ _ => rfl
      | right => exact fun _ hleft => hfirst rfl hleft
  refine ⟨hfilled, ?_⟩
  rw [hfilled.tidy.children_eq, h.tidy.children_eq]
  cases slot with
  | left =>
    -- nothing can stand on the right while the left slot is free
    have hleft : node.left = none := hempty
    have hright : node.right = none := by
      cases hchild : node.right with
      | none => rfl
      | some child =>
        have hsome := h.left_of_right (by rw [hchild]; rfl) hmem
        rw [hleft] at hsome
        cases hsome
    show [id] ++ node.right.toList = node.left.toList ++ node.right.toList ++ [id]
    rw [hleft, hright]
    rfl
  | right =>
    have hright : node.right = none := hempty
    show node.left.toList ++ [id] = node.left.toList ++ node.right.toList ++ [id]
    rw [hright, Option.toList_none, List.append_nil]

/-- One node has become a child of another. -/
structure Link where
  parent : NodeId
  child : NodeId
deriving DecidableEq

/-- The children that some links give to a node, in the order of the links. -/
def childrenOf (links : List Link) (id : NodeId) : List NodeId :=
  (links.filter fun link => link.parent = id).map Link.child

theorem mem_childrenOf {links : List Link} {upper lower : NodeId} :
    lower ∈ childrenOf links upper ↔ ⟨upper, lower⟩ ∈ links := by
  unfold childrenOf
  constructor
  · intro h
    obtain ⟨link, hlink, rfl⟩ := List.mem_map.1 h
    obtain ⟨hmem, hparent⟩ := List.mem_filter.1 hlink
    rwa [← of_decide_eq_true hparent]
  · intro h
    exact List.mem_map.2 ⟨_, List.mem_filter.2 ⟨h, decide_eq_true rfl⟩, rfl⟩

theorem childrenOf_append (links more : List Link) (id : NodeId) :
    childrenOf (links ++ more) id = childrenOf links id ++ childrenOf more id := by
  simp only [childrenOf, List.filter_append, List.map_append]

theorem childrenOf_singleton (link : Link) (id : NodeId) :
    childrenOf [link] id = if id = link.parent then [link.child] else [] := by
  by_cases h : id = link.parent
  · simp [childrenOf, h]
  · simp [childrenOf, h, Ne.symm h]

namespace Graph

/-- The node in a slot of another node. -/
def child? (graph : Graph) (id : NodeId) (slot : Slot) : Option NodeId :=
  (graph.node? id).bind (·.child slot)

/-- What attaching a node finds when it succeeds, and what it then does. -/
theorem attach_eq_ok {graph : Graph} {parent child : NodeId} {attachment : Attachment}
    (h : graph.attach parent child = .ok attachment) :
    ∃ parentNode childNode slot, graph.node? parent = some parentNode ∧
      graph.node? child = some childNode ∧ parentNode.freeSlot? = some slot ∧
      childNode.kind ≠ .root ∧ childNode.parent = none ∧
      attachment.graph = graph.link parent slot child := by
  unfold attach at h
  split at h
  next parentNode childNode hparent hchild =>
    split at h
    next slot hplace =>
      cases h
      unfold placeFor at hplace
      split at hplace
      next => cases hplace
      next =>
        split at hplace
        next => cases hplace
        next free hfree =>
          split at hplace
          next => cases hplace
          next hroot =>
            split at hplace
            next => cases hplace
            next hfixed =>
              cases hplace
              exact ⟨parentNode, childNode, slot, hparent, hchild, hfree, hroot,
                Option.not_isSome_iff_eq_none.1 hfixed, rfl⟩
    next => cases h
  next => cases h
  next => cases h

/-! ## What a link changes -/

/-- A link changes the parent of one node and a slot of one node, which may be the
same node. -/
theorem node?_link (graph : Graph) (parent : NodeId) (slot : Slot) (child id : NodeId) :
    (graph.link parent slot child).node? id = (graph.node? id).map fun node =>
      { (if id = parent then node.withChild slot child else node) with
        parent := if id = child then some parent else node.parent } := by
  rw [link, node?_modify, node?_modify]
  cases graph.node? id with
  | none => split <;> split <;> rfl
  | some node =>
    by_cases hparent : id = parent <;> by_cases hchild : id = child
    · simp only [if_pos hparent, if_pos hchild, Option.map_some]
      cases slot <;> rfl
    · simp only [if_pos hparent, if_neg hchild, Option.map_some]
      cases slot <;> rfl
    · simp only [if_neg hparent, if_pos hchild, Option.map_some]
    · simp only [if_neg hparent, if_neg hchild, Option.map_some]

theorem parent?_link {graph : Graph} {child : NodeId} (h : child < graph.size)
    (parent : NodeId) (slot : Slot) (id : NodeId) :
    (graph.link parent slot child).parent? id =
      if id = child then some parent else graph.parent? id := by
  unfold parent?
  rw [node?_link]
  cases hnode : graph.node? id with
  | none =>
    have hid : id ≠ child := by
      intro heq
      rw [heq] at hnode
      rw [← node?_isSome, hnode] at h
      cases h
    rw [if_neg hid]
    rfl
  | some node => rfl

theorem child?_link {graph : Graph} {parent : NodeId} (h : parent < graph.size) (slot : Slot)
    (child id : NodeId) (other : Slot) :
    (graph.link parent slot child).child? id other =
      if id = parent ∧ other = slot then some child else graph.child? id other := by
  unfold child?
  rw [node?_link]
  cases hnode : graph.node? id with
  | none =>
    have hid : id ≠ parent := by
      intro heq
      rw [heq] at hnode
      rw [← node?_isSome, hnode] at h
      cases h
    rw [if_neg fun hboth => hid hboth.1]
    rfl
  | some node =>
    by_cases hid : id = parent
    · cases slot <;> cases other <;> simp [hid, Node.withChild, Node.child]
    · cases other <;> simp [hid, Node.child]

/-- All nodes of the graph have their slots filled in order. -/
def FilledInOrder (graph : Graph) : Prop :=
  ∀ id node, graph.node? id = some node → node.FilledInOrder

/-- A link into the first free slot leaves all slots filled in order, and puts the
child behind the other children of its parent. -/
theorem FilledInOrder.link {graph : Graph} (h : graph.FilledInOrder) {parent : NodeId}
    {parentNode : Node} {slot : Slot} (hparent : graph.node? parent = some parentNode)
    (hslot : parentNode.freeSlot? = some slot) (child : NodeId) :
    (graph.link parent slot child).FilledInOrder ∧
      ∀ id, (graph.link parent slot child).children id =
        graph.children id ++ if id = parent then [child] else [] := by
  obtain ⟨hfilled, hchildren⟩ := (h parent parentNode hparent).withChild hslot child
  -- whose child a node is plays no part in how its own slots are filled
  have hmoved : ∀ {node : Node} (above : Option NodeId), node.FilledInOrder →
      ({ node with parent := above } : Node).FilledInOrder :=
    fun _ hnode => ⟨hnode.tidy, hnode.left_of_right⟩
  constructor
  · intro id after hafter
    rw [node?_link] at hafter
    obtain ⟨before, hbefore, rfl⟩ := Option.map_eq_some_iff.1 hafter
    by_cases hid : id = parent
    · rw [hid, hparent] at hbefore
      cases hbefore
      rw [if_pos hid]
      exact hmoved _ hfilled
    · rw [if_neg hid]
      exact hmoved _ (h id before hbefore)
  · intro id
    unfold children
    rw [node?_link]
    by_cases hid : id = parent
    · rw [hid, hparent, if_pos rfl]
      simp only [Option.map_some, if_pos]
      exact hchildren
    · rw [if_neg hid, List.append_nil]
      cases graph.node? id with
      | none => rfl
      | some before =>
        simp only [Option.map_some, if_neg hid]
        rfl

end Graph

end Propositional
