import Propositional.Parse

/-!
# Editing a graph

The ways in which a graph can grow: a new node, the nodes of a parsed source, a
new link. An edit that fails leaves the graph as it was. The graphs that some
sequence of edits leads to from the empty one are the reachable ones.
-/

namespace Propositional

/-- A change to a graph. -/
inductive Edit
  | create (kind : Kind)
  | parse (source : String)
  | attach (parent child : NodeId)
deriving DecidableEq

/-- What a successful edit has done. -/
inductive Edit.Effect
  /-- A node was created. -/
  | created (id : NodeId)
  /-- This many nodes were created, with consecutive numbers from `first` on. -/
  | parsed (first added : Nat)
  /-- A child went into a slot of its parent. -/
  | attached (slot : Slot)
deriving DecidableEq

/-- Why an edit failed. -/
inductive EditError
  | atom (refused : NotALetter)
  | parse (reason : ParseError)
  | attach (refusal : AttachError)
deriving DecidableEq

/-- The reason as a reported failure. -/
def EditError.fault : EditError → Fault
  | atom refused => refused.fault
  | parse reason => reason.fault
  | attach refusal => refusal.fault

/-- The kind of a node that is to be created. An atom is asked for by a letter,
which becomes its label in uppercase. -/
def Kind.requested : Kind → Except NotALetter Kind
  | .atom letter => (atomLabel letter).map .atom
  | kind => .ok kind

namespace Graph

/-- Carries out an edit. -/
def edit? (graph : Graph) : Edit → Except EditError (Graph × Edit.Effect)
  | .create kind =>
    match kind.requested with
    | .ok kind => .ok (graph.push kind, .created graph.size)
    | .error refused => .error (.atom refused)
  | .parse source =>
    match (graph.parse source).outcome with
    | .ok parsed => .ok (parsed.graph, .parsed parsed.root (parsed.graph.size - graph.size))
    | .error reason => .error (.parse reason)
  | .attach parent child =>
    match graph.attach parent child with
    | .ok attachment => .ok (attachment.graph, .attached attachment.slot)
    | .error refusal => .error (.attach refusal)

/-- The graph after an edit, unchanged if the edit fails. -/
def edit (graph : Graph) (change : Edit) : Graph :=
  match graph.edit? change with
  | .ok (graph, _) => graph
  | .error _ => graph

/-- The graph after a sequence of edits. -/
def editAll (graph : Graph) (changes : List Edit) : Graph :=
  changes.foldl edit graph

/-- Some sequence of edits leads from the empty graph to this one. -/
def Reachable (graph : Graph) : Prop :=
  ∃ changes, empty.editAll changes = graph

theorem Reachable.edit {graph : Graph} (h : graph.Reachable) (change : Edit) :
    (graph.edit change).Reachable := by
  obtain ⟨changes, rfl⟩ := h
  exact ⟨changes ++ [change], by simp [editAll]⟩

end Graph

end Propositional
