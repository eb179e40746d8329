import Propositional.Graph.Attach

/-!
# Why a parse tree cannot be turned into a graph

A parse tree says by the number of children of a node what the node stands for.
It is refused where it has another number of children or none at all, where a
leaf is missing or covers nothing, and where the text under a leaf is not what
the place asks for.
-/

namespace Propositional

/-- The reason why a parse tree was refused. -/
inductive BuildError
  /-- A leaf stands where a formula was expected. -/
  | noChildren
  /-- A node stands where a leaf was expected. -/
  | notLeaf
  /-- A leaf covers no character of the text. -/
  | emptyRange
  /-- A character is neither a letter nor a connective where one was expected. -/
  | unexpectedCharacter (character : Char)
  /-- The uppercase form of a letter is not a letter. -/
  | notALetter (refused : NotALetter)
  /-- A connective has the wrong number of operands. -/
  | unexpectedConnective (found : Connective)
  /-- A node has a number of children that no formula has. -/
  | childCount (count : Nat)
  /-- A node could not be attached to its parent. -/
  | attach (refusal : AttachError)
deriving DecidableEq

/-- What was expected where the given connective was found. -/
def Connective.counterpart : Connective → String
  | .negation => "binary connective"
  | .binary _ => "negation"

/-- The refusal as a reported failure. -/
def BuildError.fault : BuildError → Fault
  | noChildren => .plain .invalidTree "Syntax tree doesn't have any children"
  | notLeaf => .plain .noLeaf "Expected a leaf in the syntax tree but found none"
  | emptyRange =>
    .plain .emptySubstring
      "Couldn't get the first character from the syntax tree leaf's associated substring"
  | unexpectedCharacter character => .invalidCharacter character.toString ""
  | notALetter refused => refused.fault
  | unexpectedConnective found =>
    .invalidCharacter found.symbol.toString
      ("Expected a " ++ found.counterpart ++ " but found '" ++ found.symbol.toString ++ "'")
  | childCount count => .childCount count
  | attach refusal => refusal.fault

end Propositional
