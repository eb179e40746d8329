import Mathlib.Data.Fintype.EquivFin
import Propositional.Proofs.Graph.Record

/-!
# Walks downwards and ancestors upwards

A walk follows slots, from a node to its children. Ancestors are found the other
way, from a node to its parent. Where both ends of every link agree, the two meet:
a walk comes to those nodes that have the start among their ancestors. Cycles do
not spoil this, for a node has one parent only and what lies on a cycle has its
parent on it too. So there is a way from a cycle to nodes outside it, and none
back.

> `OnCycle.onCycle_parent`, `OnCycle.exists_child`: a cycle is entered from
> itself only, and always goes on.
> `Traversal.mem_iff`, `Traversal.nodup`: what a traversal comes to, and that it
> comes there once.
> `Consistent.exists_traversal`, `Consistent.descent`: from a node outside all cycles
> there is a traversal, and the walk ends with it.
> `length_walkFrom_of_onCycle`: a walk that has come to a cycle does not end.
-/

namespace Propositional.Graph

variable {graph : Graph}

/-! ## Ancestors -/

/-- The first node is the second one or stands above it. -/
def AtOrAbove (graph : Graph) (upper lower : NodeId) : Prop :=
  lower = upper ∨ graph.Above upper lower

theorem lt_size_of_parent? {upper lower : NodeId} (h : graph.parent? lower = some upper) :
    lower < graph.size := by
  obtain ⟨node, hnode, -⟩ := Option.bind_eq_some_iff.1 h
  exact node?_isSome.1 (by rw [hnode]; rfl)

/-- What stands below a node is one of its children or stands below one of them. -/
theorem above_iff_exists_child {upper lower : NodeId} :
    graph.Above upper lower ↔
      ∃ child, graph.parent? child = some upper ∧ graph.AtOrAbove child lower := by
  constructor
  · intro h
    induction h with
    | parent h => exact ⟨_, h, .inl rfl⟩
    | step h _ ih =>
      obtain ⟨child, hchild, hbelow⟩ := ih
      refine ⟨child, hchild, .inr ?_⟩
      rcases hbelow with rfl | hbelow
      · exact .parent h
      · exact .step h hbelow
  · intro h
    obtain ⟨child, hchild, hbelow⟩ := h
    rcases hbelow with rfl | hbelow
    · exact .parent hchild
    · exact Above.trans (.parent hchild) hbelow

/-- What stands above the child of a node is the node or stands above it. -/
theorem Above.atOrAbove_parent {upper middle lower : NodeId} (h : graph.Above upper lower)
    (hparent : graph.parent? lower = some middle) : graph.AtOrAbove upper middle := by
  cases h with
  | parent h =>
    cases h.symm.trans hparent
    exact .inl rfl
  | step h habove =>
    cases h.symm.trans hparent
    exact .inr habove

/-- Of two ancestors of a node, one stands above the other. -/
theorem Above.total {a b lower : NodeId} (ha : graph.Above a lower) (hb : graph.Above b lower) :
    graph.AtOrAbove a b ∨ graph.Above b a := by
  induction ha with
  | parent h =>
    rcases hb.atOrAbove_parent h with rfl | hb
    · exact .inl (.inl rfl)
    · exact .inr hb
  | step h ha ih =>
    rcases hb.atOrAbove_parent h with rfl | hb
    · exact .inl (.inr ha)
    · exact ih hb

/-! ## Cycles -/

/-- The parent of a node on a cycle is on it, too. -/
theorem OnCycle.onCycle_parent {upper lower : NodeId} (h : graph.OnCycle lower)
    (hparent : graph.parent? lower = some upper) : graph.OnCycle upper := by
  rcases Above.atOrAbove_parent h hparent with rfl | habove
  · exact h
  · exact Above.trans (.parent hparent) habove

/-- A cycle goes on below each of its nodes. -/
theorem OnCycle.exists_child {id : NodeId} (h : graph.OnCycle id) :
    ∃ child, graph.parent? child = some id ∧ graph.OnCycle child := by
  obtain ⟨child, hchild, hbelow⟩ := above_iff_exists_child.1 h
  refine ⟨child, hchild, ?_⟩
  rcases hbelow with rfl | hbelow
  · exact h
  · exact Above.trans hbelow (.parent hchild)

/-- Outside cycles, two children of a node have nothing in common that stands at or
below both. -/
theorem eq_of_atOrAbove {id a b lower : NodeId} (hid : ¬graph.OnCycle id)
    (ha : graph.parent? a = some id) (hb : graph.parent? b = some id)
    (halower : graph.AtOrAbove a lower) (hblower : graph.AtOrAbove b lower) : a = b := by
  -- one child above another would have their parent between them
  have hsibling : ∀ {a b : NodeId}, graph.parent? a = some id → graph.parent? b = some id →
      ¬graph.Above a b := fun ha hb habove =>
    hid (above_iff_exists_child.2 ⟨_, ha, habove.atOrAbove_parent hb⟩)
  rcases halower with rfl | halower <;> rcases hblower with rfl | hblower
  · rfl
  · exact absurd hblower (hsibling hb ha)
  · exact absurd halower (hsibling ha hb)
  · rcases halower.total hblower with (rfl | habove) | habove
    · rfl
    · exact absurd habove (hsibling ha hb)
    · exact absurd habove (hsibling hb ha)

/-! ## Traversals -/

/-- The children of a node stand on its left and on its right. -/
theorem Consistent.parent?_eq_some_iff (h : graph.Consistent) {id child : NodeId} {node : Node}
    (hnode : graph.node? id = some node) :
    graph.parent? child = some id ↔ node.left = some child ∨ node.right = some child := by
  rw [h.parent_iff]
  unfold child?
  rw [hnode]
  constructor
  · intro hslot
    obtain ⟨slot, hslot⟩ := hslot
    cases slot with
    | left => exact .inl hslot
    | right => exact .inr hslot
  · intro hside
    rcases hside with hleft | hright
    · exact ⟨.left, hleft⟩
    · exact ⟨.right, hright⟩

/-- What stands below a node stands at or below its left or its right child. -/
theorem Consistent.above_iff (h : graph.Consistent) {id other : NodeId} {node : Node}
    (hnode : graph.node? id = some node) :
    graph.Above id other ↔
      (∃ child, node.left = some child ∧ graph.AtOrAbove child other) ∨
        ∃ child, node.right = some child ∧ graph.AtOrAbove child other := by
  rw [above_iff_exists_child]
  constructor
  · intro hchild
    obtain ⟨child, hparent, hbelow⟩ := hchild
    rcases (h.parent?_eq_some_iff hnode).1 hparent with hleft | hright
    · exact .inl ⟨child, hleft, hbelow⟩
    · exact .inr ⟨child, hright, hbelow⟩
  · intro hside
    rcases hside with ⟨child, hleft, hbelow⟩ | ⟨child, hright, hbelow⟩
    · exact ⟨child, (h.parent?_eq_some_iff hnode).2 (.inl hleft), hbelow⟩
    · exact ⟨child, (h.parent?_eq_some_iff hnode).2 (.inr hright), hbelow⟩

/-- A traversal comes to the nodes at and below its place. -/
theorem Traversal.mem_iff (hconsistent : graph.Consistent) {place : Option NodeId}
    {ids : List NodeId} (h : graph.Traversal place ids) (other : NodeId) :
    other ∈ ids ↔ ∃ id, place = some id ∧ graph.AtOrAbove id other := by
  induction h with
  | missing =>
    constructor
    · exact (nomatch ·)
    · intro hplace
      obtain ⟨id, hplace, -⟩ := hplace
      cases hplace
  | @node id node lefts rights hnode _ _ ihl ihr =>
    rw [List.mem_cons, List.mem_append, ihl, ihr, ← hconsistent.above_iff hnode]
    constructor
    · exact fun hbelow => ⟨id, rfl, hbelow⟩
    · intro hplace
      obtain ⟨_, hplace, hbelow⟩ := hplace
      cases hplace
      exact hbelow

/-- No traversal comes to a cycle, for it would have to go on around it. -/
theorem Traversal.not_onCycle (hconsistent : graph.Consistent) {place : Option NodeId}
    {ids : List NodeId} (h : graph.Traversal place ids) : ∀ id ∈ ids, ¬graph.OnCycle id := by
  induction h with
  | missing => exact fun id hid => absurd hid List.not_mem_nil
  | @node id node lefts rights hnode hlefts hrights ihl ihr =>
    intro other hother hcycle
    rcases List.mem_cons.1 hother with rfl | hbelow
    · obtain ⟨child, hchild, hnext⟩ := hcycle.exists_child
      rcases (hconsistent.parent?_eq_some_iff hnode).1 hchild with hleft | hright
      · rw [hleft] at hlefts
        exact ihl child hlefts.mem hnext
      · rw [hright] at hrights
        exact ihr child hrights.mem hnext
    · rcases List.mem_append.1 hbelow with hleft | hright
      · exact ihl other hleft hcycle
      · exact ihr other hright hcycle

/-- A traversal comes to no node twice. -/
theorem Traversal.nodup (hconsistent : graph.Consistent) {place : Option NodeId}
    {ids : List NodeId} (h : graph.Traversal place ids) : ids.Nodup := by
  induction h with
  | missing => exact List.nodup_nil
  | @node id node lefts rights hnode hlefts hrights ihl ihr =>
    have hid : ¬graph.OnCycle id :=
      (Traversal.node hnode hlefts hrights).not_onCycle hconsistent id List.mem_cons_self
    refine List.nodup_cons.2 ⟨?_, List.nodup_append.2 ⟨ihl, ihr, ?_⟩⟩
    · -- below itself, the node would be on a cycle
      intro hmem
      rw [List.mem_append, hlefts.mem_iff hconsistent, hrights.mem_iff hconsistent,
        ← hconsistent.above_iff hnode] at hmem
      exact hid hmem
    · -- on both sides, its two children would be one, in two slots
      intro other hother _ hother' heq
      subst heq
      obtain ⟨child, hchild, hbelow⟩ := (hlefts.mem_iff hconsistent other).1 hother
      obtain ⟨child', hchild', hbelow'⟩ := (hrights.mem_iff hconsistent other).1 hother'
      have hparent : graph.parent? child = some id :=
        (hconsistent.parent?_eq_some_iff hnode).2 (.inl hchild)
      have hparent' : graph.parent? child' = some id :=
        (hconsistent.parent?_eq_some_iff hnode).2 (.inr hchild')
      cases eq_of_atOrAbove hid hparent hparent' hbelow hbelow'
      have hslots := hconsistent.slot_unique id child .left .right
        (by rw [child?, hnode]; exact hchild) (by rw [child?, hnode]; exact hchild')
      cases hslots

/-- The nodes outside all cycles. -/
abbrev Loose (graph : Graph) : Type := { id : Fin graph.size // ¬graph.OnCycle id }

/-- Outside all cycles one cannot go down forever. -/
theorem wellFounded_below (graph : Graph) :
    WellFounded fun lower upper : graph.Loose => graph.Above upper.1 lower.1 := by
  have : IsTrans graph.Loose fun lower upper => graph.Above upper.1 lower.1 :=
    ⟨fun _ _ _ hab hbc => hbc.trans hab⟩
  have : Std.Irrefl fun lower upper : graph.Loose => graph.Above upper.1 lower.1 :=
    ⟨fun id => id.2⟩
  exact Finite.wellFounded_of_trans_of_irrefl _

/-- There is a traversal from every node outside all cycles. -/
theorem Consistent.exists_traversal (h : graph.Consistent) (id : graph.Loose) :
    ∃ ids, graph.Traversal (some id.1.1) ids := by
  induction id using graph.wellFounded_below.induction with
  | _ id ih =>
    obtain ⟨⟨id, hlt⟩, hid⟩ := id
    obtain ⟨node, hnode⟩ := Option.isSome_iff_exists.1 (node?_isSome.2 hlt)
    -- a child is outside all cycles, as its parent is
    have hchild : ∀ child, graph.parent? child = some id →
        ∃ ids, graph.Traversal (some child) ids := by
      intro child hparent
      have hloose : ¬graph.OnCycle child := fun hcycle => hid (hcycle.onCycle_parent hparent)
      exact ih ⟨⟨child, lt_size_of_parent? hparent⟩, hloose⟩ (.parent hparent)
    have hplace : ∀ place : Option NodeId,
        (∀ child, place = some child → graph.parent? child = some id) →
        ∃ ids, graph.Traversal place ids := by
      intro place hparent
      cases place with
      | none => exact ⟨[], .missing⟩
      | some child => exact hchild child (hparent child rfl)
    obtain ⟨lefts, hlefts⟩ := hplace node.left fun child hleft =>
      (h.parent?_eq_some_iff hnode).2 (.inl hleft)
    obtain ⟨rights, hrights⟩ := hplace node.right fun child hright =>
      (h.parent?_eq_some_iff hnode).2 (.inr hright)
    exact ⟨_, .node hnode hlefts hrights⟩

/-! ## The walk -/

/-- A walk with a lower limit is the beginning of one with a higher limit. -/
theorem take_walkFrom (graph : Graph) (limit more : Nat) (stack : List NodeId) :
    (graph.walkFrom (limit + more) stack).take limit = graph.walkFrom limit stack := by
  induction limit generalizing stack with
  | zero => rfl
  | succ limit ih =>
    rw [Nat.succ_add]
    cases stack with
    | nil => rfl
    | cons id stack =>
      rw [walkFrom, walkFrom, List.take_succ_cons, ih]

/-- Where there is a traversal, the walk is over after it. -/
theorem walk_eq_take (htidy : graph.Tidy) {id : NodeId} {ids : List NodeId}
    (h : graph.Traversal (some id) ids) (limit : Nat) :
    graph.walk id limit = ids.take limit := by
  have hwhole : graph.walkFrom (ids.length + limit) [id] = ids := by
    have hwalk := walkFrom_traversal htidy h limit []
    rwa [walkFrom_nil, List.append_nil, List.append_nil] at hwalk
  calc graph.walk id limit = (graph.walkFrom (limit + ids.length) [id]).take limit :=
        (graph.take_walkFrom limit ids.length [id]).symm
    _ = ids.take limit := by rw [Nat.add_comm, hwhole]

/-- While a node on a cycle waits to be visited, the walk does not end. -/
theorem length_walkFrom_of_onCycle (hconsistent : graph.Consistent) {id : NodeId}
    (hid : graph.OnCycle id) (limit : Nat) {stack : List NodeId} (h : id ∈ stack) :
    (graph.walkFrom limit stack).length = limit := by
  induction limit generalizing id stack with
  | zero => rfl
  | succ limit ih =>
    cases stack with
    | nil => cases h
    | cons top stack =>
      rw [walkFrom, List.length_cons, Nat.succ_inj]
      rcases List.mem_cons.1 h with rfl | hbelow
      · -- the next node of the cycle takes its place
        obtain ⟨child, hchild, hnext⟩ := hid.exists_child
        have hmem : child ∈ graph.children id :=
          hconsistent.tidy.mem_children_iff.2 ((hconsistent.parent_iff id child).1 hchild)
        exact ih hnext (List.mem_append_left _ hmem)
      · exact ih hid (List.mem_append_right _ hbelow)

/-- The nodes are those at and below a node, and the walk from there consists of
them. -/
structure Descent (graph : Graph) (id : NodeId) (ids : List NodeId) : Prop where
  /-- Each node comes before those on its left, and these before those on its right. -/
  traversal : graph.Traversal (some id) ids
  nodup : ids.Nodup
  mem_iff : ∀ other, other ∈ ids ↔ graph.AtOrAbove id other
  not_onCycle : ∀ other ∈ ids, ¬graph.OnCycle other
  /-- The walk comes to these nodes in this order, and ends. -/
  walk : ∀ limit, graph.walk id limit = ids.take limit

theorem Consistent.descent (h : graph.Consistent) {id : NodeId} {ids : List NodeId}
    (htraversal : graph.Traversal (some id) ids) : graph.Descent id ids where
  traversal := htraversal
  nodup := htraversal.nodup h
  mem_iff := by
    intro other
    rw [htraversal.mem_iff h]
    constructor
    · intro hplace
      obtain ⟨_, hplace, hbelow⟩ := hplace
      cases hplace
      exact hbelow
    · exact fun hbelow => ⟨id, rfl, hbelow⟩
  not_onCycle := htraversal.not_onCycle h
  walk := walk_eq_take h.tidy htraversal

/-- The parent of a node that the walk comes to has been met before, except for the
start. -/
theorem Descent.exists_parent {id other : NodeId} {ids : List NodeId} (h : graph.Descent id ids)
    (hmem : other ∈ ids) (hne : other ≠ id) :
    ∃ upper ∈ ids, graph.parent? other = some upper := by
  rcases (h.mem_iff other).1 hmem with heq | habove
  · exact absurd heq hne
  · cases habove with
    | parent hparent => exact ⟨id, (h.mem_iff id).2 (.inl rfl), hparent⟩
    | step hparent habove => exact ⟨_, (h.mem_iff _).2 (.inr habove), hparent⟩

/-- **Walks downwards are ancestors upwards.** In a reachable graph, the walk from a
node that is no ancestor of itself ends. It comes once to the node and to every
node that has it as an ancestor, to no others, and to no cycle, in the order of the
recursion that takes the left side before the right one. The walk from a node that
is an ancestor of itself goes on up to any limit. -/
theorem walk_descends (hreachable : graph.Reachable) {id : NodeId} (hid : id < graph.size) :
    (¬graph.OnCycle id → ∃ ids, graph.Descent id ids) ∧
      (graph.OnCycle id → ∀ limit, (graph.walk id limit).length = limit) := by
  obtain ⟨links, hlinked⟩ := hreachable.linkedBy
  have hconsistent : graph.Consistent := hlinked.consistent
  constructor
  · intro hloose
    obtain ⟨ids, hids⟩ := hconsistent.exists_traversal ⟨⟨id, hid⟩, hloose⟩
    exact ⟨ids, hconsistent.descent hids⟩
  · intro hcycle limit
    exact length_walkFrom_of_onCycle hconsistent hcycle limit (List.mem_singleton_self id)

/-- A pair is its own left child, and on its right stand two negations, one below
the other. The walk from the pair never ends; the one from the upper negation, which
has the pair as an ancestor, does not come back to it. -/
theorem walk_descends_beside_loop :
    let graph := empty.editAll [.create .pair, .create (.connective .negation),
      .create (.connective .negation), .attach 0 0, .attach 0 1, .attach 1 2]
    (∀ limit, (graph.walk 0 limit).length = limit) ∧ graph.Descent 1 [1, 2] := by
  intro graph
  have hreachable : graph.Reachable := ⟨_, rfl⟩
  have hpair : graph.parent? 0 = some 0 := rfl
  -- nothing but the pair itself stands above it
  have habove : ∀ {upper lower : NodeId}, graph.Above upper lower → lower = 0 → upper = 0 := by
    intro upper lower h
    induction h with
    | parent h =>
      rintro rfl
      exact (Option.some.inj (hpair.symm.trans h)).symm
    | step h _ ih =>
      rintro rfl
      exact ih (Option.some.inj (hpair.symm.trans h)).symm
  have hloose : ¬graph.OnCycle 1 := by
    intro hcycle
    have hupper : graph.AtOrAbove 1 0 := Above.atOrAbove_parent hcycle rfl
    rcases hupper with heq | hupper
    · cases heq
    · cases habove hupper rfl
  refine ⟨(walk_descends hreachable (by decide)).2 (Above.parent hpair), ?_⟩
  obtain ⟨ids, hids⟩ := (walk_descends hreachable (by decide)).1 hloose
  have htraversal : graph.Traversal (some 1) (1 :: ([] ++ 2 :: ([] ++ []))) :=
    .node rfl .missing (.node rfl .missing .missing)
  have heq : ids = [1, 2] := hids.traversal.unique htraversal
  rwa [heq] at hids

end Propositional.Graph
