import Propositional.Log.Traced

/-!
# Diagnostics

What a caller should know although nothing went wrong: an atom written in
lowercase names the same variable as its uppercase letter. The diagnostics of a
computation are found among the events that it reports, in their order.
-/

namespace Propositional

/-- An observation about one character of a text. -/
structure Diagnostic where
  position : Int
  character : String
  message : String
deriving DecidableEq

namespace Diagnostic

/-- The observation that an atom was written in lowercase. -/
def lowercase (character : String) (position : Int) : Diagnostic where
  position := position
  character := character
  message :=
    "Lowercase letter '" ++ character ++ "' converted to '" ++ Text.uppercaseText character ++ "'"

/-- The observation on one line. -/
def render (diagnostic : Diagnostic) : String :=
  diagnostic.message ++ " (position " ++ toString diagnostic.position ++ ")"

/-- The observation that an event gives rise to. -/
def ofEvent? : Log.Event → Option Diagnostic
  | .lowercaseAtom character position => some (lowercase character position)
  | _ => none

end Diagnostic

/-- The diagnostics of a computation, also of one that failed. -/
def Log.Traced.diagnostics {ε α : Type} (traced : Log.Traced ε α) : List Diagnostic :=
  traced.events.filterMap Diagnostic.ofEvent?

end Propositional
