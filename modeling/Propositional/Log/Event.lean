import Propositional.Text.Case
import Propositional.Text.Quoted

/-!
# Events

What is worth reporting while a formula is read and its graph is built. An
event says what happened; `Event.message` puts it into words. All of them are
detail, of interest only to someone who follows the work step by step.
-/

namespace Propositional.Log

/-- A step of reading or building. -/
inductive Event
  /-- A source was stripped of blanks and enclosed in parentheses. -/
  | normalized (source result : String)
  /-- A text has a derivation. -/
  | derived (text : String)
  /-- A character that is no token was met. -/
  | illegalCharacter (character : Char) (position : Nat)
  /-- A text was rejected at a token or at its end. -/
  | rejected
  /-- A text was rejected for another reason. -/
  | readingFailed (reason : String)
  /-- A node became a child of another; kinds and slot by name. -/
  | attached (parent child slot : String)
  /-- An atom was written in lowercase. -/
  | lowercaseAtom (character : String) (position : Int)
  /-- The graph of a formula is complete. -/
  | built (text : String) (nodes : Int)
  /-- Building failed; the name of the failure and its message. -/
  | buildFailed (failure message : String)
deriving DecidableEq

/-- An event in words. -/
def Event.message : Event → String
  | normalized source result =>
    "Normalized formula " ++ Text.quoted source ++ " to " ++ Text.quoted result
  | derived text => "Grammar derived a syntax tree for " ++ Text.quoted text
  | illegalCharacter character position =>
    "Illegal character '" ++ character.toString ++ "' at position " ++ toString position
  | rejected => "Grammar parse error encountered"
  | readingFailed reason => "Unexpected grammar parsing error: " ++ reason
  | attached parent child slot =>
    "    Attached " ++ child ++ " as " ++ slot ++ " child of " ++ parent
  | lowercaseAtom character position =>
    "Lowercase atom '" ++ character ++ "' at position " ++ toString position ++
      " converted to '" ++ Text.uppercaseText character ++
      "'; this might cause unintentional atom conflicts"
  | built text nodes =>
    "Built logic tree with " ++ toString nodes ++ " nodes for " ++ Text.quoted text
  | buildFailed failure message =>
    "Logic tree construction failed: " ++ failure ++ ": " ++ message

end Propositional.Log
