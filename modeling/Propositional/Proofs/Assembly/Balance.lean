import Propositional.Proofs.Assembly.Refusal
import Propositional.Proofs.Graph.Wiring

/-!
# Every free slot is waited for

While a parse tree is worked through, the graph has slots that are still empty and
the list has tasks that are to fill them. Both change with every turn: a task for
parentheses is replaced by one with the same parent, any other fills a slot and
brings a node whose own slots are empty, with a task for each of them.

> `turned_turn`: what a turn does, once its parent has a slot free. It may refuse the
> parse tree but never fails to attach a node.
> `Balanced.turn`: as many tasks wait for a node as it has free slots, before a turn and
> after it, so the parent of the next task has one.
> `free_slots_waited_for`: the balance holds at every state of every build.
-/

namespace Propositional

open Log (Traced)

/-! ## Free slots -/

namespace Node

/-- The number of slots that are not filled. -/
def freeSlots (node : Node) : Nat :=
  node.kind.slots.countP fun slot => (node.child slot).isNone

theorem freeSlots_eq_zero_iff {node : Node} : node.freeSlots = 0 ↔ node.isComplete = true := by
  rw [freeSlots, isComplete, List.countP_eq_zero, List.all_eq_true]
  refine forall_congr' fun slot => imp_congr_right fun _ => ?_
  cases node.child slot <;> simp

/-- All slots of a node without children are free. -/
theorem freeSlots_childless (kind : Kind) (parent : Option NodeId) :
    freeSlots ⟨kind, parent, none, none⟩ = kind.slots.length := by
  rw [freeSlots, List.countP_eq_length]
  intro slot _
  cases slot <;> rfl

/-- A slot is found as long as one is free. -/
theorem exists_freeSlot? {node : Node} (h : 0 < node.freeSlots) :
    ∃ slot, node.freeSlot? = some slot := by
  cases hslot : node.freeSlot? with
  | some slot => exact ⟨slot, rfl⟩
  | none =>
    have hzero := freeSlots_eq_zero_iff.2 (freeSlot?_eq_none_iff.1 hslot)
    omega

theorem child_withChild (node : Node) (slot other : Slot) (id : NodeId) :
    (node.withChild slot id).child other = if other = slot then some id else node.child other := by
  cases slot <;> cases other <;> rfl

/-- A child in a free slot leaves one slot less. -/
theorem freeSlots_withChild {node : Node} {slot : Slot} (h : node.freeSlot? = some slot)
    (id : NodeId) : (node.withChild slot id).freeSlots + 1 = node.freeSlots := by
  obtain ⟨hmem, hempty, -⟩ := freeSlot?_eq_some h
  have hkind : (node.withChild slot id).kind = node.kind := by cases slot <;> rfl
  simp only [freeSlots, hkind, child_withChild]
  unfold Kind.slots at *
  cases hlayout : node.kind.layout <;> cases slot <;>
    simp_all [Layout.slots, List.countP_cons, Nat.add_comm]

end Node

/-- An old node after a new one has been linked to a slot of its parent. -/
theorem Graph.node?_sprout_of_lt {graph : Graph} {id : NodeId} (h : id < graph.size)
    (parent : NodeId) (slot : Slot) (kind : Kind) :
    (graph.sprout parent slot kind).node? id =
      (graph.node? id).map fun node =>
        if id = parent then node.withChild slot graph.size else node := by
  rw [sprout, node?_extend, size_modify, if_pos h, node?_modify]
  by_cases hid : id = parent
  · simp only [if_pos hid]
  · simp only [if_neg hid, Option.map_id']

/-! ## One turn -/

namespace Assembly

/-- What a turn comes to if the parent of the task has the slot free: a refusal of the
tree, a task for what stands in parentheses, or a new node with a task for each of its
slots. -/
inductive Turned (text : List Char) (graph : Graph) (task : Task) (slot : Slot)
    (rest : List Task) : Except BuildError Assembly → Prop
  | refused {refusal : BuildError} (h : TreeRefused text task.tree refusal) :
      Turned text graph task slot rest (.error refusal)
  | grouped (inner : ParseTree) :
      Turned text graph task slot rest (.ok ⟨graph, ⟨inner, task.parent⟩ :: rest⟩)
  | grown (kind : Kind) (operands : List ParseTree)
      (hoperands : operands.length = kind.slots.length) :
      Turned text graph task slot rest (.ok ⟨graph.sprout task.parent slot kind,
        operands.map (fun operand => ⟨operand, graph.size⟩) ++ rest⟩)

/-- A new node finds the slot that is free. -/
theorem turned_grow {text : List Char} {graph : Graph} {task : Task} {node : Node} {slot : Slot}
    (hnode : graph.node? task.parent = some node) (hslot : node.freeSlot? = some slot)
    (rest : List Task) {kind : Kind} (hkind : kind ≠ .root) (operands : List ParseTree)
    (hoperands : operands.length = kind.slots.length) :
    Turned text graph task slot rest (graph.grow task.parent kind >>= fun grown =>
      pure (⟨grown.1, operands.map (⟨·, grown.2⟩) ++ rest⟩ : Assembly)).outcome := by
  rw [Graph.grow_eq hnode hslot hkind]
  exact .grown kind operands hoperands

/-- A turn refuses the tree of the task or does what the tree asks for. It never fails to
attach a node. -/
theorem turned_turn {text : List Char} {graph : Graph} {task : Task} {node : Node} {slot : Slot}
    (hnode : graph.node? task.parent = some node) (hslot : node.freeSlot? = some slot)
    (rest : List Task) : Turned text graph task slot rest (turn text graph task rest).outcome := by
  obtain ⟨tree, parent⟩ := task
  have hatom : ∀ {label}, Kind.atom label ≠ .root := nofun
  have hconnective : ∀ {c}, Kind.connective c ≠ .root := nofun
  unfold turn
  split
  next span htree =>
    cases htree
    exact .refused (.noChildren span)
  next symbol letter htree =>
    cases htree
    rw [Traced.outcome_bind]
    cases hread : (readAtom text letter).outcome with
    | error refusal => exact .refused (.leaf (by simp) (leafRefused_of_readAtom hread))
    | ok label => exact turned_grow hnode hslot rest hatom [] rfl
  next symbol sign operand htree =>
    cases htree
    rw [Traced.outcome_bind]
    cases hread : readNegation text sign with
    | error refusal => exact .refused (.leaf (by simp) (leafRefused_of_readNegation hread))
    | ok _ => exact turned_grow hnode hslot rest hconnective [operand] rfl
  next symbol opening inner closing htree => exact .grouped inner
  next symbol opening left sign right closing htree =>
    cases htree
    rw [Traced.outcome_bind]
    cases hread : readOperator text sign with
    | error refusal => exact .refused (.leaf (by simp) (leafRefused_of_readOperator hread))
    | ok op => exact turned_grow hnode hslot rest hconnective [left, right] rfl
  next symbol children hone htwo hthree hfive htree =>
    cases htree
    exact .refused (.childCount symbol (ParseTree.length_notMem_of_ne hone htwo hthree hfive))

/-! ## The balance -/

/-- As many tasks wait for a node as it has free slots. The nodes in question are those from
number `first` on, and no task waits for another. -/
structure Balanced (first : NodeId) (state : Assembly) : Prop where
  parent_mem : ∀ task ∈ state.tasks, first ≤ task.parent ∧ task.parent < state.graph.size
  freeSlots_eq : ∀ id node, first ≤ id → state.graph.node? id = some node →
    node.freeSlots = state.tasks.countP fun task => task.parent = id

/-- The first task of the list finds a free slot. -/
theorem Balanced.exists_freeSlot? {first : NodeId} {graph : Graph} {task : Task}
    {rest : List Task} (h : Balanced first ⟨graph, task :: rest⟩) :
    ∃ node slot, graph.node? task.parent = some node ∧ node.freeSlot? = some slot := by
  obtain ⟨hfirst, hsize⟩ := h.parent_mem task List.mem_cons_self
  obtain ⟨node, hnode⟩ := Option.isSome_iff_exists.1 (Graph.node?_isSome.2 hsize)
  have hcount : node.freeSlots = (task :: rest).countP fun other => other.parent = task.parent :=
    h.freeSlots_eq task.parent node hfirst hnode
  have hfree : 0 < node.freeSlots := by
    rw [hcount]
    exact List.countP_pos_iff.2 ⟨task, List.mem_cons_self, by simp⟩
  obtain ⟨slot, hslot⟩ := Node.exists_freeSlot? hfree
  exact ⟨node, slot, hnode, hslot⟩

/-- Nothing but the new tasks waits for a new node. -/
theorem Balanced.countP_size {first : NodeId} {graph : Graph} {tasks : List Task}
    (h : Balanced first ⟨graph, tasks⟩) :
    tasks.countP (fun task => task.parent = graph.size) = 0 := by
  rw [List.countP_eq_zero]
  intro task htask heq
  have hlt : task.parent < graph.size := (h.parent_mem task htask).2
  exact Nat.ne_of_lt hlt (of_decide_eq_true heq)

/-- Tasks for one parent are counted for that parent alone. -/
theorem countP_parent_map (operands : List ParseTree) (parent id : NodeId) :
    (operands.map fun operand => (⟨operand, parent⟩ : Task)).countP
        (fun task => task.parent = id) = if parent = id then operands.length else 0 := by
  rw [List.countP_map]
  by_cases h : parent = id
  · rw [if_pos h]
    exact List.countP_eq_length.2 fun _ _ => decide_eq_true h
  · rw [if_neg h]
    exact List.countP_eq_zero.2 fun _ _ hparent => h (of_decide_eq_true hparent)

/-- A turn keeps the balance. -/
theorem Balanced.turned {text : List Char} {first : NodeId} {graph : Graph} {task : Task}
    {rest : List Task} {node : Node} {slot : Slot} {next : Assembly}
    (h : Balanced first ⟨graph, task :: rest⟩) (hnode : graph.node? task.parent = some node)
    (hslot : node.freeSlot? = some slot) (hturned : Turned text graph task slot rest (.ok next)) :
    Balanced first next := by
  have hmem := h.parent_mem
  have hcount := h.freeSlots_eq
  obtain ⟨hfirst, hsize⟩ := hmem task List.mem_cons_self
  cases hturned with
  | grouped inner =>
    -- the task for what stands in parentheses waits for the same node
    refine ⟨?_, hcount⟩
    intro other hother
    rcases List.mem_cons.1 hother with rfl | hrest
    · exact ⟨hfirst, hsize⟩
    · exact hmem other (List.mem_cons_of_mem task hrest)
  | grown kind operands hoperands =>
    refine ⟨?_, ?_⟩
    · intro other hother
      show first ≤ other.parent ∧ other.parent < (graph.sprout ..).size
      rw [Graph.size_sprout]
      rcases List.mem_append.1 hother with hnew | hrest
      · obtain ⟨operand, -, rfl⟩ := List.mem_map.1 hnew
        exact ⟨Nat.le_of_lt (Nat.lt_of_le_of_lt hfirst hsize), Nat.lt_succ_self _⟩
      · obtain ⟨hle, hlt⟩ := hmem other (List.mem_cons_of_mem task hrest)
        exact ⟨hle, Nat.lt_succ_of_lt hlt⟩
    · intro id after hid hafter
      show after.freeSlots = (operands.map _ ++ rest).countP _
      rw [List.countP_append, countP_parent_map]
      rcases Nat.lt_trichotomy id graph.size with hlt | rfl | hgt
      · -- an old node has one free slot less if it is the parent, and one task less
        rw [Graph.node?_sprout_of_lt hlt] at hafter
        obtain ⟨before, hbefore, rfl⟩ := Option.map_eq_some_iff.1 hafter
        have hbalance := hcount id before hid hbefore
        simp only [List.countP_cons] at hbalance
        rw [if_neg (Nat.ne_of_gt hlt), Nat.zero_add]
        by_cases hparent : id = task.parent
        · subst hparent
          cases hnode.symm.trans hbefore
          have hfilled := Node.freeSlots_withChild hslot graph.size
          simp only [decide_true, if_true] at hbalance
          rw [if_pos rfl]
          omega
        · rw [if_neg hparent]
          simpa only [decide_eq_true_eq, if_neg (Ne.symm hparent), Nat.add_zero] using hbalance
      · -- the new node has all its slots free, and a task for each of them
        rw [Graph.node?_sprout] at hafter
        cases hafter
        have hnone := h.countP_size
        rw [List.countP_cons] at hnone
        rw [Node.freeSlots_childless, if_pos rfl, hoperands]
        omega
      · have hlt := Graph.node?_isSome.1 (Option.isSome_of_eq_some hafter)
        rw [Graph.size_sprout] at hlt
        exact absurd (Nat.le_of_lt_succ hlt) (Nat.not_le_of_lt hgt)

/-- In balance, a turn either refuses something of the parse tree or leads to a state that is
in balance, too. -/
theorem Balanced.turn {text : List Char} {first : NodeId} {graph : Graph} {task : Task}
    {rest : List Task} (h : Balanced first ⟨graph, task :: rest⟩) :
    (∀ refusal, (Assembly.turn text graph task rest).outcome = .error refusal →
      TreeRefused text task.tree refusal) ∧
    ∀ next, (Assembly.turn text graph task rest).outcome = .ok next → Balanced first next := by
  obtain ⟨node, slot, hnode, hslot⟩ := h.exists_freeSlot?
  have hturned : Turned text graph task slot rest _ := turned_turn hnode hslot rest
  refine ⟨fun refusal hrefusal => ?_, fun next hnext => ?_⟩
  · rw [hrefusal] at hturned
    cases hturned with
    | refused hrefused => exact hrefused
  · rw [hnext] at hturned
    exact h.turned hnode hslot hturned

/-- With no task left, every node in question has all its slots filled. -/
theorem Balanced.isComplete {first : NodeId} {graph : Graph} (h : Balanced first ⟨graph, []⟩)
    {id : NodeId} {node : Node} (hid : first ≤ id) (hnode : graph.node? id = some node) :
    node.isComplete = true :=
  Node.freeSlots_eq_zero_iff.1 (h.freeSlots_eq id node hid hnode)

/-! ## Turn after turn -/

/-- A number of turns leads from one state to another. -/
inductive Reaches (text : List Char) : Assembly → Nat → Assembly → Prop
  | refl (state : Assembly) : Reaches text state 0 state
  | turn {graph : Graph} {task : Task} {rest : List Task} {next last : Assembly} {turns : Nat}
      (hturn : (turn text graph task rest).outcome = .ok next)
      (hrest : Reaches text next turns last) :
      Reaches text ⟨graph, task :: rest⟩ (turns + 1) last

variable {text : List Char} {state last : Assembly} {turns : Nat}

/-- The balance is kept by any number of turns. -/
theorem Reaches.balanced {first : NodeId} (h : Reaches text state turns last)
    (hstart : Balanced first state) : Balanced first last := by
  induction h with
  | refl state => exact hstart
  | turn hturn _ ih => exact ih (hstart.turn.2 _ hturn)

/-- Every turn lightens the load. -/
theorem Reaches.turns_add_load_le (h : Reaches text state turns last) :
    turns + load last.tasks ≤ load state.tasks := by
  induction h with
  | refl state => exact Nat.le_of_eq (Nat.zero_add _)
  | @turn graph task rest next last turns hturn _ ih =>
    have hlt : load next.tasks < load (task :: rest) := load_turn_lt hturn
    show turns + 1 + load last.tasks ≤ load (task :: rest)
    omega

/-- Working through the tasks of a state ends after some turns, with the list empty or a
turn that refuses. -/
theorem exists_reaches_end (text : List Char) (state : Assembly) :
    ∃ turns last, Reaches text state turns last ∧
      ((last.tasks = [] ∧ (run text state.graph state.tasks).outcome = .ok last.graph) ∨
        ∃ task rest refusal, last.tasks = task :: rest ∧
          (turn text last.graph task rest).outcome = .error refusal ∧
          (run text state.graph state.tasks).outcome = .error refusal) := by
  obtain ⟨graph, tasks⟩ := state
  induction hload : load tasks using Nat.strongRecOn generalizing graph tasks with
  | ind size ih =>
    cases tasks with
    | nil => exact ⟨0, _, .refl _, .inl ⟨rfl, by rw [run_nil]; rfl⟩⟩
    | cons task rest =>
      cases hturn : (turn text graph task rest).outcome with
      | error refusal =>
        exact ⟨0, _, .refl _,
          .inr ⟨task, rest, refusal, rfl, hturn, outcome_run_of_refused hturn⟩⟩
      | ok next =>
        obtain ⟨turns, last, hreaches, hend⟩ :=
          ih (load next.tasks) (hload ▸ load_turn_lt hturn) next.graph next.tasks rfl
        refine ⟨turns + 1, last, .turn hturn hreaches, ?_⟩
        rw [outcome_run_of_turn hturn]
        exact hend

/-- Whatever is reached, the work ends as it does from there. -/
theorem Reaches.outcome_run (h : Reaches text state turns last) :
    (run text state.graph state.tasks).outcome = (run text last.graph last.tasks).outcome := by
  induction h with
  | refl state => rfl
  | turn hturn _ ih => rw [outcome_run_of_turn hturn, ih]

/-- The work fails exactly when it reaches a turn that refuses. -/
theorem outcome_run_eq_error_iff {refusal : BuildError} :
    (run text state.graph state.tasks).outcome = .error refusal ↔
      ∃ turns graph task rest, Reaches text state turns ⟨graph, task :: rest⟩ ∧
        (turn text graph task rest).outcome = .error refusal := by
  constructor
  · intro h
    obtain ⟨turns, ⟨graph, tasks⟩, hreaches, hend⟩ := exists_reaches_end text state
    rcases hend with ⟨-, hrun⟩ | ⟨task, rest, other, rfl, hturn, hrun⟩
    · rw [hrun] at h
      cases h
    · rw [hrun] at h
      cases h
      exact ⟨turns, graph, task, rest, hreaches, hturn⟩
  · rintro ⟨turns, graph, task, rest, hreaches, hturn⟩
    rw [hreaches.outcome_run]
    exact outcome_run_of_refused hturn

/-- The state in which a build starts: a new root, and the whole tree to stand below it. -/
def start (graph : Graph) (tree : ParseTree) : Assembly :=
  ⟨graph.push .root, [⟨tree, graph.size⟩]⟩

theorem balanced_start (graph : Graph) (tree : ParseTree) :
    Balanced graph.size (start graph tree) := by
  refine ⟨?_, ?_⟩
  · intro task htask
    rw [List.mem_singleton.1 htask]
    exact ⟨Nat.le_refl _, by rw [start, Graph.size_push]; exact Nat.lt_succ_self _⟩
  · intro id node hid hnode
    have hlt := Graph.node?_isSome.1 (Option.isSome_of_eq_some hnode)
    rw [start, Graph.size_push] at hlt
    -- the root is the only node from there on
    obtain rfl : id = graph.size := Nat.le_antisymm (Nat.le_of_lt_succ hlt) hid
    rw [start, Graph.node?_push_size] at hnode
    cases hnode
    show Node.freeSlots ⟨.root, none, none, none⟩ = _
    rw [Node.freeSlots_childless]
    simp [start, Kind.slots, Kind.layout, Layout.slots]

/-- Assembling a parse tree is working through the tasks of that state. -/
theorem outcome_assemble_start (graph : Graph) (text : String) (tree : ParseTree) :
    (graph.assemble text tree).outcome =
      (run text.toList (start graph tree).graph (start graph tree).tasks).outcome.map
        (⟨·, graph.size⟩) := by
  unfold Graph.assemble
  dsimp only [start]
  obtain ⟨events, outcome⟩ := run text.toList (graph.push .root) [⟨tree, graph.size⟩]
  cases outcome <;> rfl

/-- So a build fails exactly when it reaches a turn that refuses. -/
theorem outcome_assemble_eq_error_iff {graph : Graph} {text : String} {tree : ParseTree}
    {refusal : BuildError} :
    (graph.assemble text tree).outcome = .error refusal ↔
      ∃ turns grown task rest,
        Reaches text.toList (start graph tree) turns ⟨grown, task :: rest⟩ ∧
          (turn text.toList grown task rest).outcome = .error refusal := by
  rw [outcome_assemble_start, ← outcome_run_eq_error_iff]
  cases (run text.toList (start graph tree).graph (start graph tree).tasks).outcome with
  | ok built => exact ⟨nofun, nofun⟩
  | error other => rw [Except.map, Except.error.injEq, Except.error.injEq]

end Assembly

/-- **Every free slot is waited for.** Whatever the text and the parse tree, and whatever was
in the graph before, at each state of a build there are as many tasks for each new node, the
root included, as the node has free slots; each task waits for one of these nodes. So no
turn fails to attach a node, and every new node is complete when no task is left. The turns
end after as many as the tree has nodes and leaves, a turn that refuses counted as well. A
builder that has built anything before never ends in a failure of wiring. -/
theorem free_slots_waited_for (graph : Graph) (text : String) (tree : ParseTree) :
    (∀ turns state, Assembly.Reaches text.toList (.start graph tree) turns state →
      turns ≤ tree.size ∧ state.Balanced graph.size ∧
      (state.tasks = [] → ∀ id node, graph.size ≤ id → state.graph.node? id = some node →
        node.isComplete = true) ∧
      ∀ task rest link, state.tasks = task :: rest →
        (Assembly.turn text.toList state.graph task rest).outcome ≠ .error (.attach link)) ∧
    (∃ turns last, Assembly.Reaches text.toList (.start graph tree) turns last ∧
      ((last.tasks = [] ∧ turns ≤ tree.size ∧
          (graph.assemble text tree).outcome = .ok ⟨last.graph, graph.size⟩) ∨
        ∃ task rest refusal, last.tasks = task :: rest ∧ turns + 1 ≤ tree.size ∧
          (Assembly.turn text.toList last.graph task rest).outcome = .error refusal ∧
          (graph.assemble text tree).outcome = .error refusal)) ∧
    ∀ history refusal,
      (((Builder.ofText text).afterBuilds history).build tree).2.outcome = .error refusal →
      .configuration ∉ refusal.fault.category :: refusal.fault.category.ancestors := by
  have hload : ∀ {turns state}, Assembly.Reaches text.toList (.start graph tree) turns state →
      turns + load state.tasks ≤ tree.size := fun h => h.turns_add_load_le
  refine ⟨fun turns state h => ?_, ?_, fun history refusal h => ?_⟩
  · have hbalanced := h.balanced (Assembly.balanced_start graph tree)
    have hturns := hload h
    obtain ⟨after, tasks⟩ := state
    refine ⟨by omega, hbalanced, ?_, ?_⟩
    · rintro rfl id node hid hnode
      exact hbalanced.isComplete hid hnode
    · rintro task rest link rfl hattach
      exact (hbalanced.turn.1 _ hattach).ne_attach link rfl
  · obtain ⟨turns, last, hreaches, hend⟩ :=
      Assembly.exists_reaches_end text.toList (.start graph tree)
    have hturns := hload hreaches
    refine ⟨turns, last, hreaches, ?_⟩
    rw [Assembly.outcome_assemble_start]
    rcases hend with ⟨hnil, hrun⟩ | ⟨task, rest, refusal, htasks, hturn, hrun⟩
    · exact .inl ⟨hnil, by omega, by rw [hrun]; rfl⟩
    · have hpos : 0 < load last.tasks := by
        rw [htasks]
        exact Nat.lt_of_lt_of_le task.tree.size_pos (Nat.le_add_right _ _)
      exact .inr ⟨task, rest, refusal, htasks, by omega, hturn, by rw [hrun]; rfl⟩
  · exact (treeRefused_of_build h).configuration_notMem

/-- The second operand of this conjunction is no formula, so the build fails with the third
turn. Until then the conjunction has one slot free, and one task waits for it. -/
theorem conjunction_waits_for_operand :
    let tree := ParseTree.node "F" [.leaf ⟨0, 1⟩, .node "F" [.leaf ⟨1, 2⟩], .leaf ⟨2, 3⟩,
      .leaf ⟨0, 0⟩, .leaf ⟨0, 0⟩]
    ∃ graph node, Assembly.Reaches "(p∧".toList (.start .empty tree) 2
        ⟨graph, [⟨.leaf ⟨0, 0⟩, 1⟩]⟩ ∧
      graph.node? 1 = some node ∧ node.kind = .connective (.binary .conjunction) ∧
      node.freeSlots = 1 := by
  intro tree
  have hfirst : (Assembly.turn "(p∧".toList (Graph.empty.push .root) ⟨tree, 0⟩ []).outcome =
      .ok ⟨⟨#[⟨.root, none, some 1, none⟩,
          ⟨.connective (.binary .conjunction), some 0, none, none⟩]⟩,
        [⟨.node "F" [.leaf ⟨1, 2⟩], 1⟩, ⟨.leaf ⟨0, 0⟩, 1⟩]⟩ := rfl
  have hsecond : (Assembly.turn "(p∧".toList ⟨#[⟨.root, none, some 1, none⟩,
          ⟨.connective (.binary .conjunction), some 0, none, none⟩]⟩
        ⟨.node "F" [.leaf ⟨1, 2⟩], 1⟩ [⟨.leaf ⟨0, 0⟩, 1⟩]).outcome =
      .ok ⟨⟨#[⟨.root, none, some 1, none⟩,
          ⟨.connective (.binary .conjunction), some 0, some 2, none⟩,
          ⟨.atom "P", some 1, none, none⟩]⟩, [⟨.leaf ⟨0, 0⟩, 1⟩]⟩ := rfl
  have hreaches := Assembly.Reaches.turn hfirst (.turn hsecond (.refl _))
  obtain ⟨-, hbalanced, -⟩ := (free_slots_waited_for .empty "(p∧" tree).1 2 _ hreaches
  exact ⟨_, _, hreaches, rfl, rfl, hbalanced.freeSlots_eq 1 _ (Nat.zero_le 1) rfl⟩

end Propositional
