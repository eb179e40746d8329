import Propositional.Assembly.Recursive
import Propositional.Assembly.Tasks
import Propositional.Proofs.Formula.Layout
import Propositional.Proofs.Log.Traced

/-!
# What working through a task does

A task stands for a formula, the one that its tree translates to. Taking the
task and everything it leads to reports what the translation reports, plants the
formula below the parent of the task and leaves the other tasks as they were:

> `run_cons`: running a list of tasks is translating the first tree, planting
> its formula, and running the others.

This is the only induction over the list. It follows the recursion of the
translation, and all it asks of the graph is that the parent of the task has a
free slot. The tasks behind are arbitrary: they are the continuation.
-/

namespace Propositional

open Log (Traced)

/-! ## One node -/

/-- A parent with a free slot takes any new node but a root. -/
theorem Graph.grow_eq {graph : Graph} {parent : NodeId} {node : Node} {slot : Slot} {kind : Kind}
    (hnode : graph.node? parent = some node) (hslot : node.freeSlot? = some slot)
    (hkind : kind ≠ .root) :
    graph.grow parent kind =
      .report (linkEvent node.kind slot kind) >>= fun _ =>
        pure (graph.sprout parent slot kind, graph.size) := by
  have hlt : parent < graph.size := node?_isSome.1 (by rw [hnode]; rfl)
  have hplace : placeFor node (.fresh kind) = .ok slot := by
    have hslots : node.kind.slots ≠ [] := by
      intro hnil
      rw [Node.freeSlot?, hnil] at hslot
      cases hslot
    unfold placeFor
    rw [if_neg hslots, hslot]
    simp [Node.fresh, hkind]
  have hattach : (graph.push kind).attach parent graph.size =
      .ok ⟨graph.sprout parent slot kind, node.kind, kind, slot⟩ := by
    unfold attach
    rw [node?_push_of_lt hlt, hnode, node?_push_size]
    dsimp only
    rw [hplace]
    dsimp only
    rw [link_push hlt]
    rfl
  rw [grow, hattach]
  rfl

namespace Assembly

theorem run_nil (text : List Char) (graph : Graph) : run text graph [] = pure graph := by
  rw [run]
  rfl

/-- Running a list of tasks is taking the first one and running the result. -/
theorem run_cons_turn (text : List Char) (graph : Graph) (task : Task) (rest : List Task) :
    run text graph (task :: rest) =
      turn text graph task rest >>= fun next => run text next.graph next.tasks := by
  rw [run]
  split
  next events next h => rw [h]; rfl
  next events refusal h => rw [h]; rfl

/-- A turn leads to a state from which the work ends in the same way. -/
theorem outcome_run_of_turn {text : List Char} {graph : Graph} {task : Task} {rest : List Task}
    {next : Assembly} (h : (turn text graph task rest).outcome = .ok next) :
    (run text graph (task :: rest)).outcome = (run text next.graph next.tasks).outcome := by
  rw [run_cons_turn, Traced.outcome_bind, h]
  rfl

/-- A turn that refuses is the last one. -/
theorem outcome_run_of_refused {text : List Char} {graph : Graph} {task : Task}
    {rest : List Task} {refusal : BuildError}
    (h : (turn text graph task rest).outcome = .error refusal) :
    (run text graph (task :: rest)).outcome = .error refusal := by
  rw [run_cons_turn, Traced.outcome_bind, h]
  rfl

/-- Running a list of tasks is translating the tree of the first one, planting
its formula in the free slot of its parent, and running the others. -/
theorem run_cons (text : List Char) (tree : ParseTree) (kind : Kind) (slot : Slot) :
    ∀ (graph : Graph) (parent : NodeId) (node : Node) (rest : List Task),
      graph.node? parent = some node → node.kind = kind → node.freeSlot? = some slot →
      run text graph (⟨tree, parent⟩ :: rest) =
        tree.formula? text kind slot >>= fun formula =>
          run text (graph.plant parent slot formula) rest := by
  fun_induction ParseTree.formula? text tree kind slot with
  | case1 span kind slot =>
    intro graph parent node rest hnode hkind hslot
    rw [run_cons_turn]
    rfl
  | case2 symbol letter kind slot =>
    intro graph parent node rest hnode hkind hslot
    subst hkind
    have hgrow : ∀ label, graph.grow parent (.atom label) = _ :=
      fun label => Graph.grow_eq hnode hslot (by simp)
    rw [run_cons_turn]
    simp only [turn, hgrow, bind_assoc, pure_bind]
    rfl
  | case3 symbol sign operand kind slot ih =>
    intro graph parent node rest hnode hkind hslot
    subst hkind
    have hgrow : graph.grow parent (.connective .negation) = _ :=
      Graph.grow_eq hnode hslot (by simp)
    have hoperand := ih (graph.sprout parent slot (.connective .negation)) graph.size _ rest
      (Graph.node?_sprout ..) rfl rfl
    rw [run_cons_turn]
    simp only [turn, hgrow, bind_assoc, pure_bind, hoperand, Graph.plant_negation]
  | case4 symbol opening inner closing kind slot ih =>
    intro graph parent node rest hnode hkind hslot
    -- parentheses add no node, and the inner tree takes the free slot
    rw [run_cons_turn]
    simp only [turn, pure_bind]
    exact ih graph parent node rest hnode hkind hslot
  | case5 symbol opening left sign right closing kind slot ihl ihr =>
    intro graph parent node rest hnode hkind hslot
    subst hkind
    have hgrow : ∀ op, graph.grow parent (.connective (.binary op)) = _ :=
      fun op => Graph.grow_eq hnode hslot (by simp)
    -- the right operand waits as a task while the left one is planted
    have hleft : ∀ op more, run text (graph.sprout parent slot (.connective (.binary op)))
        (⟨left, graph.size⟩ :: more) = _ :=
      fun op more => ihl op _ graph.size _ more (Graph.node?_sprout ..) rfl rfl
    have hright : ∀ op formula, run text
        ((graph.sprout parent slot (.connective (.binary op))).plant graph.size .left formula)
        (⟨right, graph.size⟩ :: rest) = _ :=
      fun op formula => ihr op _ graph.size _ rest (Graph.node?_plant_left ..) rfl rfl
    rw [run_cons_turn]
    simp only [turn, hgrow, bind_assoc, pure_bind, hleft, hright, Graph.plant_binary]
  | case6 symbol children kind slot hone htwo hthree hfive =>
    intro graph parent node rest hnode hkind hslot
    -- no other number of children is taken
    rw [run_cons_turn]
    unfold turn
    split
    next h => cases h
    next letter h => cases h; exact (hone _ rfl).elim
    next sign operand h => cases h; exact (htwo _ _ rfl).elim
    next opening inner closing h => cases h; exact (hthree _ _ _ rfl).elim
    next opening left sign right closing h => cases h; exact (hfive _ _ _ _ _ rfl).elim
    next symbol children h => cases h; rfl

end Assembly

end Propositional
