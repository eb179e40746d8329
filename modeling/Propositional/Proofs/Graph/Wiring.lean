import Propositional.Graph.Edit
import Propositional.Graph.Wiring
import Propositional.Proofs.Graph.Link

/-!
# An attachment is made or not

Attaching a child is a sequence of reads and writes in which both nodes may refuse. What
is left behind by a refusal is the question here, and what is written when there is none.

> `Wiring.run_attach`: the sequence comes to what `Graph.attach` says, and a refusal
> leaves the graph as it was.
> `Graph.attach_eq`: the same by what the parent has room for and what the child says.
> `attach_all_or_nothing`: which refusal comes first, and what changes if there is none.
-/

namespace Propositional

variable {graph : Graph} {parent child : NodeId} {upper lower : Node}

/-! ## Step by step -/

/-- Why a node cannot become anybody's child. -/
def Node.refusal? (node : Node) : Option AttachError :=
  if node.kind = .root then some .rootChild
  else if node.parent.isSome then some (.parentFixed node.kind)
  else none

/-- A node that refuses nothing has no parent. -/
theorem Node.parent_eq_none_of_refusal? {node : Node} (h : node.refusal? = none) :
    node.parent = none := by
  unfold refusal? at h
  split at h
  next => cases h
  next =>
    split at h
    next => cases h
    next hfixed => exact Option.not_isSome_iff_eq_none.1 hfixed

namespace Wiring

theorem run_look (graph : Graph) (id : NodeId) :
    (look id).run graph =
      match graph.node? id with
      | some node => .ok node graph
      | none => .error (.missing id) graph := by
  rw [look, EStateM.run_bind, EStateM.run_get]
  dsimp only
  cases graph.node? id <;> rfl

/-- The child decides before it writes. -/
theorem run_setParent (hchild : graph.node? child = some lower) (parent : NodeId) :
    (setParent child parent).run graph =
      match lower.refusal? with
      | some refusal => .error refusal graph
      | none => .ok () (graph.modify child fun node => { node with parent := some parent }) := by
  rw [setParent, EStateM.run_bind, run_look, hchild, Node.refusal?]
  dsimp only
  by_cases hroot : lower.kind = .root
  · rw [if_pos hroot, if_pos hroot]
    rfl
  · rw [if_neg hroot, if_neg hroot]
    by_cases hfixed : lower.parent.isSome = true
    · rw [if_pos hfixed, if_pos hfixed]
      rfl
    · rw [if_neg hfixed, if_neg hfixed]
      rfl

/-- The first free slot is filled if the child agrees. -/
theorem run_fillFirst (hparent : graph.node? parent = some upper)
    (hchild : graph.node? child = some lower) (slots : List Slot) :
    (fillFirst parent child slots).run graph =
      match slots.find? fun slot => (upper.child slot).isNone with
      | none => .error (.complete upper.kind) graph
      | some slot =>
        match lower.refusal? with
        | some refusal => .error refusal graph
        | none => .ok slot (graph.link parent slot child) := by
  induction slots with
  | nil =>
    rw [fillFirst, EStateM.run_bind, run_look, hparent]
    rfl
  | cons slot slots ih =>
    rw [fillFirst, EStateM.run_bind, run_look, hparent, List.find?_cons]
    dsimp only
    cases hfree : (upper.child slot).isNone with
    | false => exact ih
    | true =>
      rw [if_pos rfl, EStateM.run_bind, run_setParent hchild]
      cases lower.refusal? with
      | some refusal => rfl
      | none => rfl

end Wiring

/-- An attachment by what the parent has room for and what the child says itself. -/
theorem Graph.attach_eq (hparent : graph.node? parent = some upper)
    (hchild : graph.node? child = some lower) :
    graph.attach parent child =
      if upper.kind.slots = [] then .error (.noSlots upper.kind)
      else match upper.freeSlot?, lower.refusal? with
        | none, _ => .error (.complete upper.kind)
        | some _, some refusal => .error refusal
        | some slot, none =>
          .ok ⟨graph.link parent slot child, upper.kind, lower.kind, slot⟩ := by
  rw [attach, hparent, hchild]
  dsimp only
  unfold placeFor Node.refusal?
  by_cases hslots : upper.kind.slots = []
  · rw [if_pos hslots, if_pos hslots]
  · rw [if_neg hslots, if_neg hslots]
    cases upper.freeSlot? with
    | none => rfl
    | some slot =>
      by_cases hroot : lower.kind = .root
      · simp only [if_pos hroot]
      · by_cases hfixed : lower.parent.isSome = true
        · simp only [if_neg hroot, if_pos hfixed]
        · simp only [if_neg hroot, if_neg hfixed]

/-- The reads and writes of an attachment come to what is decided at once, and no
refusal leaves anything behind. -/
theorem Wiring.run_attach (graph : Graph) (parent child : NodeId) :
    (attach parent child).run graph =
      match graph.attach parent child with
      | .ok attachment => .ok attachment.slot attachment.graph
      | .error refusal => .error refusal graph := by
  rw [attach, EStateM.run_bind, run_look]
  cases hparent : graph.node? parent with
  | none =>
    rw [Graph.attach, hparent]
  | some upper =>
    dsimp only
    rw [EStateM.run_bind, run_look]
    cases hchild : graph.node? child with
    | none =>
      rw [Graph.attach, hparent, hchild]
    | some lower =>
      dsimp only
      rw [Graph.attach_eq hparent hchild]
      by_cases hslots : upper.kind.slots = []
      · rw [if_pos hslots, if_pos hslots]
        rfl
      · rw [if_neg hslots, if_neg hslots, run_fillFirst hparent hchild, ← Node.freeSlot?]
        cases upper.freeSlot? with
        | none => rfl
        | some slot => cases lower.refusal? <;> rfl

/-! ## What is refused, and what is written -/

theorem Node.freeSlot?_eq_none_iff {node : Node} :
    node.freeSlot? = none ↔ node.isComplete = true := by
  rw [freeSlot?, isComplete, List.find?_eq_none, List.all_eq_true]
  refine forall_congr' fun slot => imp_congr_right fun _ => ?_
  cases node.child slot <;> simp

theorem Kind.slots_eq_nil_iff {kind : Kind} : kind.slots = [] ↔ kind.layout = .none := by
  unfold slots
  cases kind.layout <;> simp [Layout.slots]

namespace Graph

/-- The category of the failure that attaching a child ends in, if it does. -/
def attachFailure? (graph : Graph) (parent child : NodeId) : Option Fault.Category :=
  match graph.attach parent child with
  | .ok _ => none
  | .error refusal => some refusal.fault.category

/-- One graph has a link more than another, and there is no other difference. -/
structure NewLink (graph later : Graph) (parent : NodeId) (slot : Slot) (child : NodeId) :
    Prop where
  /-- The slot was empty, and those before it were filled. -/
  first_free : ∃ upper before after, graph.node? parent = some upper ∧
    upper.kind.slots = before ++ slot :: after ∧ upper.child slot = none ∧
    ∀ other ∈ before, (upper.child other).isSome = true
  /-- The child had no parent. -/
  parentless : graph.parent? child = none
  size_eq : later.size = graph.size
  kind_eq : ∀ id, (later.node? id).map Node.kind = (graph.node? id).map Node.kind
  parent?_eq : ∀ id, later.parent? id = if id = child then some parent else graph.parent? id
  child?_eq : ∀ id other, later.child? id other =
    if id = parent ∧ other = slot then some child else graph.child? id other

theorem newLink_link (hparent : graph.node? parent = some upper)
    (hchild : graph.node? child = some lower) {slot : Slot} (hslot : upper.freeSlot? = some slot)
    (hlower : lower.parent = none) :
    graph.NewLink (graph.link parent slot child) parent slot child where
  first_free := by
    obtain ⟨hempty, before, after, hslots, hbefore⟩ := List.find?_eq_some_iff_append.1 hslot
    refine ⟨upper, before, after, hparent, hslots, Option.isNone_iff_eq_none.1 hempty, ?_⟩
    intro other hother
    have hfilled := hbefore other hother
    rwa [Bool.not_eq_true', Option.isNone_eq_false_iff] at hfilled
  parentless := by rw [parent?, hchild, Option.bind_some, hlower]
  size_eq := size_link ..
  kind_eq := by
    intro id
    rw [node?_link, Option.map_map]
    refine congrArg (Option.map · (graph.node? id)) (funext fun node => ?_)
    show (if id = parent then node.withChild slot child else node).kind = node.kind
    split
    next => cases slot <;> rfl
    next => rfl
  parent?_eq := parent?_link (node?_isSome.1 (by rw [hchild]; rfl)) parent slot
  child?_eq := child?_link (node?_isSome.1 (by rw [hparent]; rfl)) slot child

/-- Which failure an attachment ends in: the parent comes before the child, and its layout
before its slots. -/
theorem attachFailure?_eq (hparent : graph.node? parent = some upper)
    (hchild : graph.node? child = some lower) :
    graph.attachFailure? parent child =
      if upper.kind.layout = .none then some .noChildrenAllowed
      else if upper.isComplete then some .childrenComplete
      else if lower.kind = .root ∨ lower.parent.isSome then some .parentFixed
      else none := by
  rw [attachFailure?, attach_eq hparent hchild]
  by_cases hslots : upper.kind.slots = []
  · rw [if_pos hslots, if_pos (Kind.slots_eq_nil_iff.1 hslots)]
    rfl
  · rw [if_neg hslots, if_neg (mt Kind.slots_eq_nil_iff.2 hslots)]
    cases hslot : upper.freeSlot? with
    | none => rw [if_pos (Node.freeSlot?_eq_none_iff.1 hslot)]; rfl
    | some slot =>
      have hfree : ¬upper.isComplete = true := by
        rw [← Node.freeSlot?_eq_none_iff, hslot]
        exact Option.some_ne_none slot
      rw [if_neg hfree, Node.refusal?]
      by_cases hroot : lower.kind = .root
      · rw [if_pos hroot, if_pos (.inl hroot)]
        rfl
      · by_cases hfixed : lower.parent.isSome = true
        · rw [if_neg hroot, if_pos hfixed, if_pos (.inr hfixed)]
          rfl
        · rw [if_neg hroot, if_neg hfixed, if_neg (not_or.2 ⟨hroot, hfixed⟩)]

/-- An attachment that succeeds makes one link. -/
theorem newLink_of_attach (hparent : graph.node? parent = some upper)
    (hchild : graph.node? child = some lower) {attachment : Attachment}
    (h : graph.attach parent child = .ok attachment) :
    graph.NewLink attachment.graph parent attachment.slot child := by
  rw [attach_eq hparent hchild] at h
  split at h
  next => cases h
  next =>
    split at h
    next => cases h
    next => cases h
    next slot hslot hagrees =>
      cases h
      exact newLink_link hparent hchild hslot (Node.parent_eq_none_of_refusal? hagrees)

/-- **An attachment is made or not.** Attaching a node fails if the parent has no slots,
else if none of its slots is free, else if the child is a root or has a parent already, in
this order, and does not fail otherwise. When it fails, even the reads and writes that it
consists of leave the graph as it was. When it succeeds, the child has got the parent, the
first free slot of the parent has got the child, and nothing else has changed. The two
nodes may be the same, and they may stand above or below each other. -/
theorem attach_all_or_nothing (hparent : graph.node? parent = some upper)
    (hchild : graph.node? child = some lower) :
    (graph.attachFailure? parent child =
      if upper.kind.layout = .none then some .noChildrenAllowed
      else if upper.isComplete then some .childrenComplete
      else if lower.kind = .root ∨ lower.parent.isSome then some .parentFixed
      else none) ∧
    (∀ refusal, graph.attach parent child = .error refusal →
      graph.edit (.attach parent child) = graph ∧
      (Wiring.attach parent child).run graph = .error refusal graph) ∧
    ∀ attachment, graph.attach parent child = .ok attachment →
      graph.edit (.attach parent child) = attachment.graph ∧
      (Wiring.attach parent child).run graph = .ok attachment.slot attachment.graph ∧
      graph.NewLink attachment.graph parent attachment.slot child := by
  refine ⟨attachFailure?_eq hparent hchild, fun refusal h => ?_, fun attachment h => ?_⟩
  · exact ⟨by rw [edit, edit?, h], by rw [Wiring.run_attach, h]⟩
  · exact ⟨by rw [edit, edit?, h], by rw [Wiring.run_attach, h],
      newLink_of_attach hparent hchild h⟩

/-- A new pair can become its own left child. Once it has, it is refused by a root that
holds something, because of the root, and by itself, as a child. -/
theorem pair_attached_to_itself :
    let graph := empty.editAll [.create .pair, .create .root, .create .plain, .attach 1 2]
    let later := graph.edit (.attach 0 0)
    graph.NewLink later 0 .left 0 ∧ later.attachFailure? 1 0 = some .childrenComplete ∧
      later.attachFailure? 0 0 = some .parentFixed ∧ later.edit (.attach 0 0) = later := by
  intro graph later
  have hpair : graph.node? 0 = some (.fresh .pair) := rfl
  have hattach : graph.attach 0 0 = .ok ⟨graph.link 0 .left 0, .pair, .pair, .left⟩ := rfl
  obtain ⟨hedit, -, hlink⟩ := (attach_all_or_nothing hpair hpair).2.2 _ hattach
  have hlooped : later.node? 0 = some ⟨.pair, some 0, some 0, none⟩ := rfl
  have hholding : later.node? 1 = some ⟨.root, none, some 2, none⟩ := rfl
  refine ⟨?_, ?_, ?_, ?_⟩
  · show graph.NewLink (graph.edit (.attach 0 0)) 0 .left 0
    rw [hedit]
    exact hlink
  · exact (attach_all_or_nothing hholding hlooped).1
  · exact (attach_all_or_nothing hlooped hlooped).1
  · exact ((attach_all_or_nothing hlooped hlooped).2.1 (.parentFixed .pair) rfl).1

end Graph

end Propositional
