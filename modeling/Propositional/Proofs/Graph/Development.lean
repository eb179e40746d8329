import Propositional.Proofs.Graph.Link

/-!
# Developments of a graph

A graph develops by creating nodes and by attaching one node to another; nothing
else is ever done to it. `Develops graph links later` says that a graph has
become another one in this way, with exactly these attachments made, in this
order. What can be said about the links of a graph is shown here for one step,
and then for any development by induction on its steps.

> `LinkedBy`: the links of a graph are those of a list of attachments.
> `LinkedBy.push`, `LinkedBy.attach`: one step adds what it has attached.
> `LinkedBy.develops`: a development adds all that was attached on the way.
> `Develops.keepsLinks`: no development undoes a link.
> `LinkedBy.consistent`: both ends of every link agree.
-/

namespace Propositional.Graph

/-! ## New nodes -/

theorem node?_push (graph : Graph) (kind : Kind) (id : NodeId) :
    (graph.push kind).node? id =
      if id = graph.size then some (.fresh kind) else graph.node? id := by
  by_cases hid : id = graph.size
  · rw [if_pos hid, hid, node?_push_size]
  · rw [if_neg hid]
    by_cases hlt : id < graph.size
    · exact node?_push_of_lt hlt
    · have hnone : graph.node? id = none := by
        rw [← Option.not_isSome_iff_eq_none, node?_isSome]
        exact hlt
      have hnone' : (graph.push kind).node? id = none := by
        rw [← Option.not_isSome_iff_eq_none, node?_isSome, size_push]
        exact fun hlt' => hlt (Nat.lt_of_le_of_ne (Nat.le_of_lt_succ hlt') hid)
      rw [hnone, hnone']

theorem node?_size (graph : Graph) : graph.node? graph.size = none := by
  rw [← Option.not_isSome_iff_eq_none, node?_isSome]
  exact Nat.lt_irrefl _

/-- A new node has no links, like a node that is not there. -/
theorem parent?_push (graph : Graph) (kind : Kind) (id : NodeId) :
    (graph.push kind).parent? id = graph.parent? id := by
  unfold parent?
  rw [node?_push]
  by_cases hid : id = graph.size
  · rw [if_pos hid, hid, node?_size]
    rfl
  · rw [if_neg hid]

theorem child?_push (graph : Graph) (kind : Kind) (id : NodeId) (slot : Slot) :
    (graph.push kind).child? id slot = graph.child? id slot := by
  unfold child?
  rw [node?_push]
  by_cases hid : id = graph.size
  · rw [if_pos hid, hid, node?_size]
    cases slot <;> rfl
  · rw [if_neg hid]

theorem children_push (graph : Graph) (kind : Kind) (id : NodeId) :
    (graph.push kind).children id = graph.children id := by
  unfold children
  rw [node?_push]
  by_cases hid : id = graph.size
  · rw [if_pos hid, hid, node?_size]
    exact (Node.filledInOrder_fresh kind).tidy.children_eq
  · rw [if_neg hid]

/-! ## The links of a graph -/

/-- The links of a graph are those that some attachments have made, in this order. -/
structure LinkedBy (graph : Graph) (links : List Link) : Prop where
  filled : graph.FilledInOrder
  /-- The children of a node, from left to right, are those that were attached to
  it, from first to last. -/
  children : ∀ id, graph.children id = childrenOf links id
  /-- The parent of a node is the one that it was attached to. -/
  parent : ∀ upper lower, graph.parent? lower = some upper ↔ ⟨upper, lower⟩ ∈ links
  /-- No node was attached twice. -/
  once : (links.map Link.child).Nodup
  /-- No root was attached. -/
  root : ∀ id node, graph.node? id = some node → node.kind = .root → node.parent = none

theorem linkedBy_empty : empty.LinkedBy [] where
  filled := fun _ _ h => nomatch h
  children := fun _ => rfl
  parent := fun _ _ => ⟨(nomatch ·), (nomatch ·)⟩
  once := List.nodup_nil
  root := fun _ _ h => nomatch h

/-- Creating a node makes no link. -/
theorem LinkedBy.push {graph : Graph} {links : List Link} (h : graph.LinkedBy links)
    (kind : Kind) : (graph.push kind).LinkedBy links where
  filled := by
    intro id node hnode
    rw [node?_push] at hnode
    split at hnode
    next => cases hnode; exact Node.filledInOrder_fresh kind
    next => exact h.filled id node hnode
  children := fun id => by rw [children_push, h.children]
  parent := fun upper lower => by rw [parent?_push, h.parent]
  once := h.once
  root := by
    intro id node hnode hkind
    rw [node?_push] at hnode
    split at hnode
    next => cases hnode; rfl
    next => exact h.root id node hnode hkind

/-- Attaching a node makes one link, behind all others. -/
theorem LinkedBy.attach {graph : Graph} {links : List Link} (h : graph.LinkedBy links)
    {parent child : NodeId} {attachment : Attachment}
    (hattach : graph.attach parent child = .ok attachment) :
    attachment.graph.LinkedBy (links ++ [⟨parent, child⟩]) := by
  obtain ⟨parentNode, childNode, slot, hparent, hchild, hslot, hroot, hfree, hgraph⟩ :=
    attach_eq_ok hattach
  obtain ⟨hfilled, hchildren⟩ := h.filled.link hparent hslot child
  have hlt : child < graph.size := node?_isSome.1 (by rw [hchild]; rfl)
  have hunlinked : ∀ upper, (⟨upper, child⟩ : Link) ∉ links := by
    intro upper hmem
    have hupper : graph.parent? child = some upper := (h.parent upper child).2 hmem
    rw [parent?, hchild, Option.bind_some, hfree] at hupper
    cases hupper
  rw [hgraph]
  refine ⟨hfilled, ?_, ?_, ?_, ?_⟩
  · intro id
    rw [hchildren, h.children, childrenOf_append, childrenOf_singleton]
  · intro upper lower
    rw [parent?_link hlt, List.mem_append, List.mem_singleton, Link.mk.injEq]
    by_cases hlower : lower = child
    · rw [if_pos hlower, hlower]
      constructor
      · intro heq
        exact .inr ⟨(Option.some.inj heq).symm, rfl⟩
      · intro hmem
        rcases hmem with hmem | ⟨rfl, -⟩
        · exact absurd hmem (hunlinked upper)
        · rfl
    · rw [if_neg hlower, h.parent]
      constructor
      · exact .inl
      · intro hmem
        rcases hmem with hmem | ⟨-, heq⟩
        · exact hmem
        · exact absurd heq hlower
  · rw [List.map_append]
    refine List.nodup_append.2 ⟨h.once, List.pairwise_singleton _ _, ?_⟩
    intro lower hlower other hother heq
    obtain ⟨⟨upper, _⟩, hmem, rfl⟩ := List.mem_map.1 hlower
    rw [List.map_singleton, List.mem_singleton] at hother
    subst hother
    cases heq
    exact hunlinked upper hmem
  · intro id after hafter hkind
    rw [node?_link] at hafter
    obtain ⟨before, hbefore, rfl⟩ := Option.map_eq_some_iff.1 hafter
    have hkind' : before.kind = .root := by
      rw [← hkind]
      split
      · cases slot <;> rfl
      · rfl
    by_cases hid : id = child
    · rw [hid, hchild] at hbefore
      cases hbefore
      exact absurd hkind' hroot
    · rw [if_neg hid]
      exact h.root id before hbefore hkind'

/-! ## Developments -/

/-- Creating nodes and attaching nodes leads from one graph to another; these are
the attachments, in their order. -/
inductive Develops (graph : Graph) : List Link → Graph → Prop
  | refl : Develops graph [] graph
  | create {links : List Link} {later : Graph} (kind : Kind) (h : Develops graph links later) :
      Develops graph links (later.push kind)
  | attach {links : List Link} {later : Graph} {parent child : NodeId} {attachment : Attachment}
      (h : Develops graph links later)
      (hattach : later.attach parent child = .ok attachment) :
      Develops graph (links ++ [⟨parent, child⟩]) attachment.graph

theorem Develops.trans {a b c : Graph} {links more : List Link} (hab : a.Develops links b)
    (hbc : b.Develops more c) : a.Develops (links ++ more) c := by
  induction hbc with
  | refl =>
    rw [List.append_nil]
    exact hab
  | create kind _ ih => exact .create kind ih
  | attach _ hattach ih =>
    rw [← List.append_assoc]
    exact .attach ih hattach

/-- A development adds the links that it has made. -/
theorem LinkedBy.develops {graph later : Graph} {links more : List Link}
    (h : graph.LinkedBy links) (hdevelops : graph.Develops more later) :
    later.LinkedBy (links ++ more) := by
  induction hdevelops with
  | refl =>
    rw [List.append_nil]
    exact h
  | create kind _ ih => exact ih.push kind
  | attach _ hattach ih =>
    rw [← List.append_assoc]
    exact ih.attach hattach

/-- Filled slots and parents are in the later graph what they were in the earlier
one. -/
structure KeepsLinks (graph later : Graph) : Prop where
  child : ∀ id slot lower, graph.child? id slot = some lower → later.child? id slot = some lower
  parent : ∀ upper lower, graph.parent? lower = some upper → later.parent? lower = some upper

/-- One attachment writes only where nothing was written. -/
theorem keepsLinks_attach {graph : Graph} {parent child : NodeId} {attachment : Attachment}
    (h : graph.attach parent child = .ok attachment) : graph.KeepsLinks attachment.graph := by
  obtain ⟨parentNode, childNode, slot, hparent, hchild, hslot, -, hfree, hgraph⟩ := attach_eq_ok h
  have hlt : parent < graph.size := node?_isSome.1 (by rw [hparent]; rfl)
  have hlt' : child < graph.size := node?_isSome.1 (by rw [hchild]; rfl)
  rw [hgraph]
  constructor
  · intro id other lower hlower
    rw [child?_link hlt]
    by_cases hwritten : id = parent ∧ other = slot
    · obtain ⟨rfl, rfl⟩ := hwritten
      rw [child?, hparent, Option.bind_some, (Node.freeSlot?_eq_some hslot).2.1] at hlower
      cases hlower
    · rw [if_neg hwritten]
      exact hlower
  · intro upper lower hupper
    rw [parent?_link hlt']
    by_cases hwritten : lower = child
    · rw [hwritten, parent?, hchild, Option.bind_some, hfree] at hupper
      cases hupper
    · rw [if_neg hwritten]
      exact hupper

/-- No development undoes a link. -/
theorem Develops.keepsLinks {graph later : Graph} {links : List Link}
    (h : graph.Develops links later) : graph.KeepsLinks later := by
  induction h with
  | refl => exact ⟨fun _ _ _ h => h, fun _ _ h => h⟩
  | create kind _ ih =>
    refine ⟨fun id slot lower hlower => ?_, fun upper lower hupper => ?_⟩
    · rw [child?_push]
      exact ih.child id slot lower hlower
    · rw [parent?_push]
      exact ih.parent upper lower hupper
  | attach _ hattach ih =>
    have hstep := keepsLinks_attach hattach
    refine ⟨fun id slot lower hlower => ?_, fun upper lower hupper => ?_⟩
    · exact hstep.child id slot lower (ih.child id slot lower hlower)
    · exact hstep.parent upper lower (ih.parent upper lower hupper)

/-! ## The two ends of a link -/

/-- A node is the parent of another exactly when it has the other in a slot, and
then in one slot only. -/
structure Consistent (graph : Graph) : Prop where
  tidy : graph.Tidy
  parent_iff : ∀ upper lower, graph.parent? lower = some upper ↔
    ∃ slot, graph.child? upper slot = some lower
  slot_unique : ∀ upper lower slot other, graph.child? upper slot = some lower →
    graph.child? upper other = some lower → slot = other

/-- A node with a parent stands in one slot of its parent, and in no other slot of
any node. -/
theorem Consistent.exists_slot {graph : Graph} (h : graph.Consistent) {upper lower : NodeId}
    (hparent : graph.parent? lower = some upper) :
    ∃ slot, ∀ holder place,
      graph.child? holder place = some lower ↔ holder = upper ∧ place = slot := by
  obtain ⟨slot, hslot⟩ := (h.parent_iff upper lower).1 hparent
  refine ⟨slot, fun holder place => ⟨fun hplace => ?_, ?_⟩⟩
  · have hholder : graph.parent? lower = some holder :=
      (h.parent_iff holder lower).2 ⟨place, hplace⟩
    cases hholder.symm.trans hparent
    exact ⟨rfl, h.slot_unique upper lower place slot hplace hslot⟩
  · rintro ⟨rfl, rfl⟩
    exact hslot

theorem Tidy.mem_children_iff {graph : Graph} (h : graph.Tidy) {upper lower : NodeId} :
    lower ∈ graph.children upper ↔ ∃ slot, graph.child? upper slot = some lower := by
  unfold children child?
  cases hnode : graph.node? upper with
  | none =>
    constructor
    · exact (nomatch ·)
    · intro hslot
      obtain ⟨slot, hslot⟩ := hslot
      cases hslot
  | some node =>
    show lower ∈ node.children ↔ ∃ slot, node.child slot = some lower
    rw [(h upper node hnode).children_eq, List.mem_append, Option.mem_toList, Option.mem_toList]
    constructor
    · intro hmem
      rcases hmem with hleft | hright
      · exact ⟨.left, hleft⟩
      · exact ⟨.right, hright⟩
    · intro hslot
      obtain ⟨slot, hslot⟩ := hslot
      cases slot with
      | left => exact .inl hslot
      | right => exact .inr hslot

/-- Where the links are those of a list of attachments, both ends of every link
agree. -/
theorem LinkedBy.consistent {graph : Graph} {links : List Link} (h : graph.LinkedBy links) :
    graph.Consistent := by
  have htidy : graph.Tidy := fun id node hnode => (h.filled id node hnode).tidy
  refine ⟨htidy, ?_, ?_⟩
  · intro upper lower
    rw [h.parent, ← mem_childrenOf, ← h.children, htidy.mem_children_iff]
  · intro upper lower slot other hslot hother
    have hnodup : (graph.children upper).Nodup := by
      rw [h.children]
      exact h.once.sublist (List.filter_sublist.map _)
    obtain ⟨node, hnode, hchild⟩ := Option.bind_eq_some_iff.1 hslot
    obtain ⟨node', hnode', hchild'⟩ := Option.bind_eq_some_iff.1 hother
    cases hnode.symm.trans hnode'
    rw [Graph.children, hnode] at hnodup
    dsimp only at hnodup
    rw [(htidy upper node hnode).children_eq] at hnodup
    -- the node would be met on both sides
    have hsides : node.left = some lower → node.right = some lower → False := by
      intro hleft hright
      rw [hleft, hright] at hnodup
      exact (List.nodup_cons.1 hnodup).1 (List.mem_singleton_self lower)
    cases slot <;> cases other
    · rfl
    · exact (hsides hchild hchild').elim
    · exact (hsides hchild' hchild).elim
    · rfl

end Propositional.Graph
