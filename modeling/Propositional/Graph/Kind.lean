import Propositional.Connective
import Propositional.Fault
import Propositional.Text.Case
import Propositional.Text.Letter

/-!
# Kinds of node

What a node of a formula's graph can be, and how many children it has room for.
Beside the kinds that occur in formulas there are two generic ones, without and
with room for children. Nothing is known about what a generic node means.
-/

namespace Propositional

/-- A place for a child. -/
inductive Slot
  | left
  | right
deriving DecidableEq

/-- The name of a slot. -/
def Slot.name : Slot → String
  | left => "left"
  | right => "right"

/-- Which slots a kind of node has. -/
inductive Layout
  | none
  | leftOnly
  | rightOnly
  | leftAndRight
deriving DecidableEq

/-- The slots of a layout in the order in which they are filled. -/
def Layout.slots : Layout → List Slot
  | none => []
  | leftOnly => [.left]
  | rightOnly => [.right]
  | leftAndRight => [.left, .right]

/-- The kinds of node. -/
inductive Kind
  /-- A generic node without slots. -/
  | plain
  /-- A generic node with two slots. -/
  | pair
  /-- The entry of a formula, which it holds on the left. -/
  | root
  /-- A propositional variable. -/
  | atom (label : String)
  /-- A connective, whose operands are its children. -/
  | connective (c : Connective)
deriving DecidableEq

namespace Kind

/-- The layout of a kind. The operand of a negation stands on the right. -/
def layout : Kind → Layout
  | plain => .none
  | pair => .leftAndRight
  | root => .leftOnly
  | atom _ => .none
  | connective .negation => .rightOnly
  | connective (.binary _) => .leftAndRight

/-- The slots of a kind in the order in which they are filled. -/
def slots (kind : Kind) : List Slot := kind.layout.slots

/-- Whether a kind is one of the two generic ones. -/
def isGeneric : Kind → Bool
  | plain | pair => true
  | root | atom _ | connective _ => false

/-- The name of a kind in descriptions. The generic kinds share one. -/
def name : Kind → String
  | plain | pair => "Logic"
  | root => "Root"
  | atom _ => "Atomic"
  | connective .negation => "Negation"
  | connective (.binary .conjunction) => "Conjunction"
  | connective (.binary .disjunction) => "Disjunction"
  | connective (.binary .conditional) => "Conditional"
  | connective (.binary .biconditional) => "Biconditional"

/-- The name of a kind within a sentence. -/
def lowerName (kind : Kind) : String := kind.name.toLower

/-- The full name of a kind, which tells all of them apart. -/
def fullName : Kind → String
  | pair => "BinaryNode"
  | kind => kind.name ++ "Node"

end Kind

/-- A text that was to name an atom and is not a single letter. -/
structure NotALetter where
  text : String
deriving DecidableEq

/-- The refusal as a reported failure. -/
def NotALetter.fault (refused : NotALetter) : Fault :=
  .invalidCharacter refused.text ("Atoms must be a single letter, got '" ++ refused.text ++ "'")

/-- The label of the atom that a letter names: its uppercase form, which for a
few letters is longer than one character. -/
def atomLabel (text : String) : Except NotALetter String :=
  match text.toList with
  | [c] => if Text.isLetter c then .ok (Text.uppercaseText text) else .error ⟨text⟩
  | _ => .error ⟨text⟩

end Propositional
