import Propositional.Graph.Edit
import Propositional.Proofs.Assembly.Run
import Propositional.Proofs.Graph.Development

/-!
# A record of all attachments

Edits make links in two ways: an attachment makes one, and a parse makes one for
each node below its root. `Graph.record` lists all of them, first to last; those
of a parse are listed as its tasks are worked through. The record is kept beside
the graph and no edit reads it. It turns out to say everything there is to say
about links.

> `turn_develops`, `run_develops`: what the builder does to a graph is a
> development, turn by turn and from start to end.
> `editAll_develops`: any sequence of edits is one, and the record has its links.
> `links_written_once`: slots and parents hold what the record says, for good.
-/

namespace Propositional

open Log (Traced)

/-! ## The attachments of a parse -/

/-- Growing a graph by a node creates the node and attaches it. -/
theorem Graph.grow_develops {graph grown : Graph} {parent id : NodeId} {kind : Kind}
    (h : (graph.grow parent kind).outcome = .ok (grown, id)) :
    graph.Develops [⟨parent, graph.size⟩] grown ∧ grown.size = graph.size + 1 := by
  unfold grow at h
  split at h
  next attachment hattach =>
    cases h
    refine ⟨.attach (.create kind .refl) hattach, ?_⟩
    rw [size_attach hattach, size_push]
  next => cases h

namespace Assembly

/-- The links that a turn has made. A node that it has added was attached to the
parent of the task. -/
def turnLinks (graph : Graph) (task : Task) (next : Assembly) : List Link :=
  if next.graph.size = graph.size then [] else [⟨task.parent, graph.size⟩]

/-- The links that are made while the tasks are worked through, first to last. -/
def links (text : List Char) (graph : Graph) : List Task → List Link
  | [] => []
  | task :: rest =>
    match _ : (turn text graph task rest).outcome with
    | .ok next => turnLinks graph task next ++ links text next.graph next.tasks
    | .error _ => []
termination_by tasks => load tasks
decreasing_by
  next h => exact load_turn_lt h

/-- A turn that has grown the graph by a node has made its one link. -/
theorem develops_of_grow {graph grown : Graph} {task : Task} {kind : Kind} {id : NodeId}
    (h : (graph.grow task.parent kind).outcome = .ok (grown, id)) (tasks : List Task) :
    graph.Develops (turnLinks graph task ⟨grown, tasks⟩) grown := by
  obtain ⟨hdevelops, hsize⟩ := Graph.grow_develops h
  have hgrown : grown.size ≠ graph.size := by omega
  rw [turnLinks, if_neg hgrown]
  exact hdevelops

/-- A turn develops the graph by the links that it makes. -/
theorem turn_develops {text : List Char} {graph : Graph} {task : Task} {rest : List Task}
    {next : Assembly} (h : (turn text graph task rest).outcome = .ok next) :
    graph.Develops (turnLinks graph task next) next.graph := by
  unfold turn at h
  split at h
  next => cases h
  next =>
    -- an atom
    obtain ⟨label, -, h⟩ := Traced.outcome_bind_eq_ok.1 h
    obtain ⟨⟨grown, id⟩, hgrow, h⟩ := Traced.outcome_bind_eq_ok.1 h
    cases h
    exact develops_of_grow hgrow _
  next =>
    -- a negation
    obtain ⟨-, -, h⟩ := Traced.outcome_bind_eq_ok.1 h
    obtain ⟨⟨grown, id⟩, hgrow, h⟩ := Traced.outcome_bind_eq_ok.1 h
    cases h
    exact develops_of_grow hgrow _
  next =>
    -- parentheses, which leave the graph as it is
    cases h
    rw [turnLinks, if_pos rfl]
    exact .refl
  next =>
    -- a binary connective
    obtain ⟨op, -, h⟩ := Traced.outcome_bind_eq_ok.1 h
    obtain ⟨⟨grown, id⟩, hgrow, h⟩ := Traced.outcome_bind_eq_ok.1 h
    cases h
    exact develops_of_grow hgrow _
  next => cases h

/-- Working through the tasks develops the graph by the links of all turns. -/
theorem run_develops {text : List Char} {graph final : Graph} {tasks : List Task}
    (h : (run text graph tasks).outcome = .ok final) :
    graph.Develops (links text graph tasks) final := by
  fun_induction links text graph tasks with
  | case1 graph =>
    rw [run_nil] at h
    cases h
    exact .refl
  | case2 graph task rest next hturn ih =>
    rw [run_cons_turn, Traced.outcome_bind_eq_ok] at h
    obtain ⟨next', hturn', h⟩ := h
    rw [hturn] at hturn'
    cases hturn'
    exact (turn_develops hturn).trans (ih h)
  | case3 graph task rest refusal hturn =>
    rw [run_cons_turn, Traced.outcome_bind_eq_ok] at h
    obtain ⟨next', hturn', -⟩ := h
    rw [hturn] at hturn'
    cases hturn'

end Assembly

namespace Graph

/-- The links that are made when a parse tree is assembled, first to last. -/
def treeLinks (graph : Graph) (text : String) (tree : ParseTree) : List Link :=
  Assembly.links text.toList (graph.push .root) [⟨tree, graph.size⟩]

/-- Assembling a parse tree creates a root and develops the graph from there. -/
theorem assemble_develops {graph : Graph} {text : String} {tree : ParseTree} {built : Rooted}
    (h : (graph.assemble text tree).outcome = .ok built) :
    graph.Develops (graph.treeLinks text tree) built.graph := by
  unfold assemble at h
  dsimp only at h
  split at h
  next events final hrun =>
    cases h
    have hfinal : (Assembly.run text.toList (graph.push .root) [⟨tree, graph.size⟩]).outcome =
        .ok final := by rw [hrun]
    exact (Develops.create .root .refl).trans (Assembly.run_develops hfinal)
  next => cases h

/-! ## The attachments of edits -/

/-- The links that an edit makes, none if it fails. -/
def linksOf (graph : Graph) : Edit → List Link
  | .create _ => []
  | .parse source =>
    match (derive (normalize source)).outcome, (graph.parse source).outcome with
    | .ok tree, .ok _ => graph.treeLinks (normalize source) tree
    | _, _ => []
  | .attach parent child =>
    match graph.attach parent child with
    | .ok _ => [⟨parent, child⟩]
    | .error _ => []

/-- The links that a sequence of edits makes, first to last. -/
def record (graph : Graph) : List Edit → List Link
  | [] => []
  | change :: rest => graph.linksOf change ++ (graph.edit change).record rest

theorem parse_develops {graph : Graph} {source : String} {parsed : Rooted}
    (h : (graph.parse source).outcome = .ok parsed) :
    graph.Develops (graph.linksOf (.parse source)) parsed.graph := by
  obtain ⟨-, -, hstages⟩ := Traced.outcome_bind_eq_ok.1 h
  obtain ⟨tree, hderive, hbuilt⟩ := Traced.outcome_bind_eq_ok.1 hstages
  rw [Traced.outcome_mapError_eq_ok] at hderive hbuilt
  have hlinks : graph.linksOf (.parse source) = graph.treeLinks (normalize source) tree := by
    rw [linksOf, hderive, h]
  rw [hlinks]
  exact assemble_develops hbuilt

/-- An edit develops the graph by the links that it makes. -/
theorem edit_develops (graph : Graph) (change : Edit) :
    graph.Develops (graph.linksOf change) (graph.edit change) := by
  cases change with
  | create kind =>
    cases hkind : kind.requested with
    | ok found =>
      have hedit : graph.edit (.create kind) = graph.push found := by rw [edit, edit?, hkind]
      rw [hedit]
      exact .create found .refl
    | error refused =>
      have hedit : graph.edit (.create kind) = graph := by rw [edit, edit?, hkind]
      rw [hedit]
      exact .refl
  | parse source =>
    cases houtcome : (graph.parse source).outcome with
    | ok parsed =>
      have hedit : graph.edit (.parse source) = parsed.graph := by
        rw [edit, edit?, houtcome]
      rw [hedit]
      exact parse_develops houtcome
    | error reason =>
      have hedit : graph.edit (.parse source) = graph := by
        rw [edit, edit?, houtcome]
      have hlinks : graph.linksOf (.parse source) = [] := by
        rw [linksOf, houtcome]
        cases (derive (normalize source)).outcome <;> rfl
      rw [hedit, hlinks]
      exact .refl
  | attach parent child =>
    cases hattach : graph.attach parent child with
    | ok attachment =>
      have hedit : graph.edit (.attach parent child) = attachment.graph := by
        rw [edit, edit?, hattach]
      have hlinks : graph.linksOf (.attach parent child) = [] ++ [⟨parent, child⟩] := by
        rw [linksOf, hattach]
        rfl
      rw [hedit, hlinks]
      exact .attach .refl hattach
    | error refusal =>
      have hedit : graph.edit (.attach parent child) = graph := by rw [edit, edit?, hattach]
      have hlinks : graph.linksOf (.attach parent child) = [] := by rw [linksOf, hattach]
      rw [hedit, hlinks]
      exact .refl

/-- A sequence of edits develops the graph by the links that it makes. -/
theorem editAll_develops (graph : Graph) (changes : List Edit) :
    graph.Develops (graph.record changes) (graph.editAll changes) := by
  induction changes generalizing graph with
  | nil => exact .refl
  | cons change rest ih => exact (graph.edit_develops change).trans (ih (graph.edit change))

/-- A reachable graph has the links of some attachments. -/
theorem Reachable.linkedBy {graph : Graph} (h : graph.Reachable) :
    ∃ links, graph.LinkedBy links := by
  obtain ⟨changes, rfl⟩ := h
  exact ⟨_, linkedBy_empty.develops (empty.editAll_develops changes)⟩

theorem editAll_append (graph : Graph) (changes more : List Edit) :
    graph.editAll (changes ++ more) = (graph.editAll changes).editAll more :=
  List.foldl_append

theorem record_append (graph : Graph) (changes more : List Edit) :
    graph.record (changes ++ more) =
      graph.record changes ++ (graph.editAll changes).record more := by
  induction changes generalizing graph with
  | nil => rfl
  | cons change rest ih =>
    rw [List.cons_append, record, record, ih, List.append_assoc]
    rfl

/-- **Links are a record of the attachments, written once.** After any edits, with
failing ones among them, the children of a node are those that were attached to
it, in the order in which they were; there are no more of them than its kind has
slots, and the left slot is filled before the right one. A node was attached at
most once, a root never, and its parent is the node that it was attached to: the
one node that has it in a slot, and in one slot only. Further edits add to the
record and change no filled slot and no parent. -/
theorem links_written_once (changes : List Edit) :
    let graph := empty.editAll changes
    let links := empty.record changes
    empty.Develops links graph ∧ graph.LinkedBy links ∧ graph.Consistent ∧
      (∀ id node, graph.node? id = some node →
        (childrenOf links id).length ≤ node.kind.slots.length) ∧
      ∀ more, empty.record (changes ++ more) = links ++ graph.record more ∧
        graph.KeepsLinks (empty.editAll (changes ++ more)) := by
  intro graph links
  have hdevelops : empty.Develops links graph := empty.editAll_develops changes
  have hlinked : graph.LinkedBy links := linkedBy_empty.develops hdevelops
  refine ⟨hdevelops, hlinked, hlinked.consistent, ?_, fun more => ⟨?_, ?_⟩⟩
  · intro id node hnode
    have hchildren : childrenOf links id = node.children := by
      rw [← hlinked.children, children, hnode]
    rw [hchildren]
    exact List.length_filterMap_le _ _
  · exact empty.record_append changes more
  · rw [editAll_append]
    exact (graph.editAll_develops more).keepsLinks

/-- A node can be attached to itself, and then to nothing else. -/
example : empty.record [.create .pair, .create .root, .attach 0 0, .attach 1 0, .attach 0 1] =
    [⟨0, 0⟩] := rfl

end Graph

end Propositional
