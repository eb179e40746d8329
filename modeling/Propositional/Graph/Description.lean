import Propositional.Graph.Fold
import Propositional.Graph.Outline

/-!
# Descriptions of nodes

A description shows a node and everything below it on one line. An atom is
shown as its label. Any other node without slots is shown as its name; else the
name and the two sides, divided by a bar, stand in parentheses. A side without a
slot is shown as an underscore, a slot that is not filled as `nil`.

`Outline.describe` states this by recursion; `Graph.describe?` computes it
from the leaves up.
-/

namespace Propositional

/-- What stands in the place of a child that is not there. -/
def missingText : String := "nil"

/-- The description of a node of a kind, given those of its children. -/
def Kind.describe (kind : Kind) (left right : Option String) : String :=
  match kind with
  | .atom label => label
  | _ =>
    match kind.layout with
    | .none => kind.name
    | .leftOnly => "(" ++ kind.name ++ " " ++ left.getD missingText ++ "|_)"
    | .rightOnly => "(" ++ kind.name ++ " _|" ++ right.getD missingText ++ ")"
    | .leftAndRight =>
      "(" ++ kind.name ++ " " ++ left.getD missingText ++ "|" ++ right.getD missingText ++ ")"

/-- The description of an outline; a missing one is described as such. -/
def Outline.describe : Outline → String
  | missing => missingText
  | node kind left right => kind.describe (some left.describe) (some right.describe)

namespace Graph

/-- The description of a node. -/
def describe? (graph : Graph) (id : NodeId) : Option String :=
  graph.foldUp (fun kind left right => some (kind.describe left right)) id

/-- The description of a node together with the full name of its kind. -/
def label? (graph : Graph) (id : NodeId) : Option String := do
  let node ← graph.node? id
  let description ← graph.describe? id
  return "<" ++ node.kind.fullName ++ " " ++ description ++ ">"

end Graph

end Propositional
