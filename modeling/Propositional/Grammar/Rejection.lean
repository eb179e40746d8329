import Propositional.Token
import Propositional.Fault

/-!
# Why a text is not a formula

A text is rejected at the first place where it can no longer become a formula:
at a token that fits nowhere, at a character that is no token, or at its end.
-/

namespace Propositional

/-- The reason why a text was rejected. -/
inductive Rejection
  | unexpected (token : Token)
  | illegal (character : IllegalCharacter)
  | unexpectedEnd
deriving DecidableEq

namespace Rejection

/-- The message of a rejection. -/
def message : Rejection → String
  | unexpected token =>
    "Syntax error near " ++ token.kind.name ++ " at position " ++ toString token.index
  | illegal character => "Parse failed: " ++ character.message
  | unexpectedEnd => "Syntax error: Unexpected end of formula"

/-- The rejection as a reported failure; an illegal character is its cause. -/
def fault (rejection : Rejection) : Fault where
  category := .grammar
  message := rejection.message
  detail := match rejection with
    | illegal character => .cause character.message
    | _ => .plain

end Rejection

end Propositional
