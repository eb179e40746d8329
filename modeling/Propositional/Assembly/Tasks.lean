import Propositional.Assembly.Leaf
import Propositional.Graph.Walk

/-!
# Building the graph of a formula

The graph is built from the top down by working through a list of tasks. A task
is a parse tree and the node that its formula is to become a child of. How many
children the tree has tells what it stands for: one for an atom, two for a
negation, three for a formula in parentheses, five for a binary connective.
Taking a task adds at most one node and puts the tasks for the operands in front
of all others, the left operand first, so that nodes are created and attached in
the order in which a walk will meet them.

> `load_turn_lt`: every turn takes more nodes and leaves of the parse tree off
> the list than it puts there, so the work ends.
-/

namespace Propositional

open Log (Traced Event)

/-- A parse tree whose formula is to become a child of a node. -/
structure Task where
  tree : ParseTree
  parent : NodeId
deriving DecidableEq

/-- The number of nodes and leaves in the trees of all tasks. -/
def load (tasks : List Task) : Nat := ParseTree.sizeAll (tasks.map Task.tree)

/-- A graph under construction and the work still to be done. -/
structure Assembly where
  graph : Graph
  tasks : List Task
deriving DecidableEq

/-- The report of a new link. -/
def Attachment.event (attachment : Attachment) : Event :=
  .attached attachment.parent.name attachment.child.name attachment.slot.name

/-- Creates a node and attaches it. -/
def Graph.grow (graph : Graph) (parent : NodeId) (kind : Kind) :
    Traced BuildError (Graph × NodeId) :=
  match (graph.push kind).attach parent graph.size with
  | .ok attachment => ⟨[attachment.event], .ok (attachment.graph, graph.size)⟩
  | .error refusal => .fail (.attach refusal)

namespace Assembly

/-- Takes one task, with `rest` the tasks behind it. -/
def turn (text : List Char) (graph : Graph) (task : Task) (rest : List Task) :
    Traced BuildError Assembly :=
  match task.tree with
  | .leaf _ => .fail .noChildren
  | .node _ [letter] => do
    let label ← readAtom text letter
    let (graph, _) ← graph.grow task.parent (.atom label)
    return ⟨graph, rest⟩
  | .node _ [sign, operand] => do
    let _ ← .ofExcept (readNegation text sign)
    let (graph, id) ← graph.grow task.parent (.connective .negation)
    return ⟨graph, ⟨operand, id⟩ :: rest⟩
  | .node _ [_, inner, _] => return ⟨graph, ⟨inner, task.parent⟩ :: rest⟩
  | .node _ [_, left, sign, right, _] => do
    let op ← .ofExcept (readOperator text sign)
    let (graph, id) ← graph.grow task.parent (.connective (.binary op))
    return ⟨graph, ⟨left, id⟩ :: ⟨right, id⟩ :: rest⟩
  | .node _ children => .fail (.childCount children.length)

theorem load_turn_lt {text : List Char} {graph : Graph} {task : Task} {rest : List Task}
    {next : Assembly} (h : (turn text graph task rest).outcome = .ok next) :
    load next.tasks < load (task :: rest) := by
  have hload : ∀ (task : Task) (rest : List Task),
      load (task :: rest) = task.tree.size + load rest := fun _ _ => rfl
  obtain ⟨tree, parent⟩ := task
  unfold turn at h
  split at h
  · simp at h
  · next symbol letter htree =>
    obtain ⟨_, _, h⟩ := Traced.outcome_bind_eq_ok.1 h
    obtain ⟨_, _, h⟩ := Traced.outcome_bind_eq_ok.1 h
    cases h
    rw [hload]
    exact Nat.lt_add_of_pos_left (ParseTree.size_pos _)
  · next symbol sign operand htree =>
    obtain ⟨_, _, h⟩ := Traced.outcome_bind_eq_ok.1 h
    obtain ⟨_, _, h⟩ := Traced.outcome_bind_eq_ok.1 h
    cases h
    cases htree
    simp only [hload, ParseTree.size, ParseTree.sizeAll]
    omega
  · next symbol opening inner closing htree =>
    cases h
    cases htree
    simp only [hload, ParseTree.size, ParseTree.sizeAll]
    omega
  · next symbol opening left sign right closing htree =>
    obtain ⟨_, _, h⟩ := Traced.outcome_bind_eq_ok.1 h
    obtain ⟨_, _, h⟩ := Traced.outcome_bind_eq_ok.1 h
    cases h
    cases htree
    have := ParseTree.size_pos sign
    simp only [hload, ParseTree.size, ParseTree.sizeAll]
    omega
  · simp at h

/-- Takes tasks until none is left. -/
def run (text : List Char) (graph : Graph) : List Task → Traced BuildError Graph
  | [] => ⟨[], .ok graph⟩
  | task :: rest =>
    match _ : turn text graph task rest with
    | ⟨events, .ok next⟩ => (run text next.graph next.tasks).after events
    | ⟨events, .error refusal⟩ => ⟨events, .error refusal⟩
termination_by tasks => load tasks
decreasing_by
  next h => exact load_turn_lt (by rw [h])

end Assembly

/-- Adds the graph of a formula to a graph: a new root, and the formula as its
only child. -/
def Graph.assemble (graph : Graph) (text : String) (tree : ParseTree) :
    Traced BuildError Rooted :=
  let root := graph.size
  match Assembly.run text.toList (graph.push .root) [⟨tree, root⟩] with
  | ⟨events, .ok graph⟩ =>
    ⟨events ++ [.built text (graph.preorder root).length], .ok ⟨graph, root⟩⟩
  | ⟨events, .error refusal⟩ =>
    ⟨events ++ [.buildFailed refusal.fault.category.name refusal.fault.message],
      .error refusal⟩

end Propositional
