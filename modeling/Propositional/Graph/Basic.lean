import Propositional.Graph.Kind

/-!
# Graphs of nodes

Nodes are numbered in the order of their creation and never removed. A node
knows the node it is a child of, and which nodes are its own children; these
links are written by attaching one node to another and by nothing else.

The theory of links rests on how the operations here change what `node?` shows:
`node?_push_of_lt` and `node?_push_size` for a new node, `node?_modify` for a
changed one.
-/

namespace Propositional

/-- The number of a node. -/
abbrev NodeId := Nat

/-- A node: its kind, the node it is a child of, and its own children. -/
structure Node where
  kind : Kind
  parent : Option NodeId
  left : Option NodeId
  right : Option NodeId
deriving DecidableEq

namespace Node

/-- A node of the given kind without any link. -/
def fresh (kind : Kind) : Node := ⟨kind, none, none, none⟩

/-- The child in a slot. -/
def child (node : Node) : Slot → Option NodeId
  | .left => node.left
  | .right => node.right

/-- The node with another child in a slot. -/
def withChild (node : Node) (slot : Slot) (id : NodeId) : Node :=
  match slot with
  | .left => { node with left := some id }
  | .right => { node with right := some id }

/-- The children in the filled slots, from left to right. -/
def children (node : Node) : List NodeId :=
  node.kind.slots.filterMap node.child

/-- Whether every slot is filled. -/
def isComplete (node : Node) : Bool :=
  node.kind.slots.all fun slot => (node.child slot).isSome

/-- The first slot that is not filled. -/
def freeSlot? (node : Node) : Option Slot :=
  node.kind.slots.find? fun slot => (node.child slot).isNone

end Node

/-- Numbered nodes with links between them. -/
structure Graph where
  nodes : Array Node
deriving DecidableEq

/-- A graph and one of its nodes, the entry of a formula. -/
structure Rooted where
  graph : Graph
  root : NodeId
deriving DecidableEq

namespace Graph

/-- The graph without nodes. -/
def empty : Graph := ⟨#[]⟩

/-- The number of nodes, which is also the number of the next one. -/
def size (graph : Graph) : Nat := graph.nodes.size

/-- The node of a given number. -/
def node? (graph : Graph) (id : NodeId) : Option Node := graph.nodes[id]?

/-- The children of the node of a given number. -/
def children (graph : Graph) (id : NodeId) : List NodeId :=
  match graph.node? id with
  | some node => node.children
  | none => []

/-- The graph with one more node, which is not linked to any other. -/
def push (graph : Graph) (kind : Kind) : Graph := ⟨graph.nodes.push (.fresh kind)⟩

/-- The graph with one node changed. -/
def modify (graph : Graph) (id : NodeId) (change : Node → Node) : Graph :=
  ⟨graph.nodes.modify id change⟩

@[simp]
theorem size_empty : empty.size = 0 := rfl

@[simp]
theorem size_push (graph : Graph) (kind : Kind) : (graph.push kind).size = graph.size + 1 := by
  simp [size, push]

@[simp]
theorem size_modify (graph : Graph) (id : NodeId) (change : Node → Node) :
    (graph.modify id change).size = graph.size := by
  simp [size, modify]

theorem node?_push_of_lt {graph : Graph} {kind : Kind} {id : NodeId} (h : id < graph.size) :
    (graph.push kind).node? id = graph.node? id := by
  simp only [node?, push, size] at *
  rw [Array.getElem?_push_lt h, Array.getElem?_eq_getElem h]

theorem node?_push_size (graph : Graph) (kind : Kind) :
    (graph.push kind).node? graph.size = some (.fresh kind) := by
  simp [node?, push, size]

theorem node?_modify (graph : Graph) (id other : NodeId) (change : Node → Node) :
    (graph.modify id change).node? other =
      if other = id then (graph.node? other).map change else graph.node? other := by
  simp only [node?, modify, Array.getElem?_modify]
  by_cases h : id = other
  · subst h; simp
  · rw [if_neg h, if_neg (Ne.symm h)]

theorem node?_isSome {graph : Graph} {id : NodeId} :
    (graph.node? id).isSome = true ↔ id < graph.size := by
  simp [node?, size]

end Graph

end Propositional
