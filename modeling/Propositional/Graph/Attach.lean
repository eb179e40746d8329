import Propositional.Graph.Basic

/-!
# Attaching one node to another

A child goes into the first free slot of its new parent. The parent must have
slots at all, then a free one; after that the child must be neither a root nor
somebody's child already. Either all of this holds and exactly two entries are
written, or nothing changes. That a node is attached to itself, or to one of its
own descendants, is not excluded.
-/

namespace Propositional

/-- Why one node cannot be attached to another. -/
inductive AttachError
  | missing (id : NodeId)
  | noSlots (parent : Kind)
  | complete (parent : Kind)
  | rootChild
  | parentFixed (child : Kind)
deriving DecidableEq

/-- The refusal as a reported failure. -/
def AttachError.fault : AttachError → Fault
  | missing id => .plain .configuration ("There is no node number " ++ toString id)
  | noSlots parent =>
    .plain .noChildrenAllowed ("Can't attach a child to a " ++ parent.lowerName ++ " node")
  | complete parent =>
    .plain .childrenComplete
      ("All children of the " ++ parent.lowerName ++ " node are already configured")
  | rootChild => .plain .parentFixed "Can't set the parent of a root node"
  | parentFixed child =>
    .plain .parentFixed ("The " ++ child.lowerName ++ " node already has a parent")

/-- What attaching a node has done: the graph with the new link, the slot that
was filled, and the kinds of the two nodes. -/
structure Attachment where
  graph : Graph
  parent : Kind
  child : Kind
  slot : Slot

namespace Graph

/-- Writes a link at both of its ends. -/
def link (graph : Graph) (parent : NodeId) (slot : Slot) (child : NodeId) : Graph :=
  (graph.modify child fun node => { node with parent := some parent }).modify parent
    fun node => node.withChild slot child

/-- The slot that a child would go into, if nothing speaks against it. -/
def placeFor (parent child : Node) : Except AttachError Slot :=
  if parent.kind.slots = [] then .error (.noSlots parent.kind)
  else match parent.freeSlot? with
    | none => .error (.complete parent.kind)
    | some slot =>
      if child.kind = .root then .error .rootChild
      else if child.parent.isSome then .error (.parentFixed child.kind)
      else .ok slot

/-- Attaches a child to the first free slot of a parent. -/
def attach (graph : Graph) (parent child : NodeId) : Except AttachError Attachment :=
  match graph.node? parent, graph.node? child with
  | some parentNode, some childNode =>
    match placeFor parentNode childNode with
    | .ok slot =>
      .ok ⟨graph.link parent slot child, parentNode.kind, childNode.kind, slot⟩
    | .error refusal => .error refusal
  | none, _ => .error (.missing parent)
  | some _, none => .error (.missing child)

@[simp]
theorem size_link (graph : Graph) (parent : NodeId) (slot : Slot) (child : NodeId) :
    (graph.link parent slot child).size = graph.size := by
  simp [link]

theorem size_attach {graph : Graph} {parent child : NodeId} {attachment : Attachment}
    (h : graph.attach parent child = .ok attachment) : attachment.graph.size = graph.size := by
  unfold attach at h
  split at h
  · split at h
    · cases h; simp
    · cases h
  · cases h
  · cases h

end Graph

end Propositional
