import Propositional.Graph.Attach

/-!
# Attaching, write by write

`Graph.attach` decides first and then writes both ends of a link at once. Left to the
two nodes, an attachment goes through more hands: the parent looks for a slot, the child
checks whether it may have this parent and remembers it, and only then is the slot filled.
Either node may refuse, and nobody takes back what was written until then.

`Wiring.attach` is that sequence of reads and writes. It comes to the same as
`Graph.attach` because the last refusal comes before the first write.
-/

namespace Propositional

/-- Reads and writes on a graph that may end in a refusal. What was written before a
refusal stays written. -/
abbrev Wiring := EStateM AttachError Graph

namespace Wiring

/-- Looks a node up. -/
def look (id : NodeId) : Wiring Node := do
  match (← get).node? id with
  | some node => return node
  | none => throw (.missing id)

/-- Makes the parent known to the child. A root never has one, and no other node has
two. -/
def setParent (child parent : NodeId) : Wiring Unit := do
  let node ← look child
  if node.kind = .root then throw .rootChild
  else if node.parent.isSome then throw (.parentFixed node.kind)
  else modify (·.modify child fun node => { node with parent := some parent })

/-- Puts the child into the first slot that is free. -/
def fillFirst (parent child : NodeId) : List Slot → Wiring Slot
  | [] => do
    let node ← look parent
    throw (.complete node.kind)
  | slot :: slots => do
    let node ← look parent
    if (node.child slot).isNone then
      setParent child parent
      modify (·.modify parent (·.withChild slot child))
      return slot
    else fillFirst parent child slots

/-- Attaches a child to the first free slot of a parent. -/
def attach (parent child : NodeId) : Wiring Slot := do
  let node ← look parent
  let _ ← look child
  if node.kind.slots = [] then throw (.noSlots node.kind)
  else fillFirst parent child node.kind.slots

end Wiring

end Propositional
