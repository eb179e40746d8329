import Propositional.Assembly.Leaf
import Propositional.Formula.Basic

/-!
# The formula of a parse tree

What a parse tree stands for, by recursion on the tree: the number of children
of a node says what it is, and the operands are taken from left to right. No
graph is built, but the links are reported that the nodes of the formula would
be given, and everything stops at the first error.
-/

namespace Propositional

open Log (Traced Event)

/-- The report of a link between a node of one kind and a child of another. -/
def linkEvent (parent : Kind) (slot : Slot) (child : Kind) : Event :=
  .attached parent.name child.name slot.name

/-- The formula that a parse tree stands for, as the child of a node of the
given kind in the given slot. -/
def ParseTree.formula? (text : List Char) : ParseTree → Kind → Slot → Traced BuildError Formula
  | .leaf _, _, _ => .fail .noChildren
  | .node _ [letter], parent, slot => do
    let label ← readAtom text letter
    .report (linkEvent parent slot (.atom label))
    return .atom label
  | .node _ [sign, operand], parent, slot => do
    let _ ← .ofExcept (readNegation text sign)
    .report (linkEvent parent slot (.connective .negation))
    let operand ← operand.formula? text (.connective .negation) .right
    return .negation operand
  | .node _ [_, inner, _], parent, slot => inner.formula? text parent slot
  | .node _ [_, left, sign, right, _], parent, slot => do
    let op ← .ofExcept (readOperator text sign)
    .report (linkEvent parent slot (.connective (.binary op)))
    let left ← left.formula? text (.connective (.binary op)) .left
    let right ← right.formula? text (.connective (.binary op)) .right
    return .binary op left right
  | .node _ children, _, _ => .fail (.childCount children.length)

end Propositional
