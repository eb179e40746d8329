import Propositional.ParseTree
import Propositional.Text.Case

/-!
# The truth value of a derivation

The value of a derivation tree over its text, by recursion on the tree: an atom
has the value of its letter in uppercase, a formula in parentheses that of what
they enclose, and the character between two operands says which operation is
applied to their values. Trees of any other shape have no value.
-/

namespace Propositional.ParseTree

/-- The character under a leaf. -/
def character? (text : List Char) (tree : ParseTree) : Option Char :=
  tree.span?.bind (·.first? text)

/-- The Boolean operation that a character between two operands stands for. -/
def operation? : Char → Option (Bool → Bool → Bool)
  | '∧' => some fun left right => left && right
  | '∨' => some fun left right => left || right
  | '→' => some fun antecedent consequent => !antecedent || consequent
  | '↔' => some fun left right => left == right
  | _ => none

/-- The truth value of a derivation under an assignment of the labels. -/
def truth? (text : List Char) (assignment : String → Bool) : ParseTree → Option Bool
  | .leaf _ => none
  | .node _ [letter] =>
    (letter.character? text).map fun c => assignment (String.ofList (Text.uppercase c))
  | .node _ [_, operand] => (operand.truth? text assignment).map (!·)
  | .node _ [_, inner, _] => inner.truth? text assignment
  | .node _ [_, left, sign, right, _] =>
    match (sign.character? text).bind operation?, left.truth? text assignment,
        right.truth? text assignment with
    | some operation, some left, some right => some (operation left right)
    | _, _, _ => none
  | .node _ _ => none

end Propositional.ParseTree
