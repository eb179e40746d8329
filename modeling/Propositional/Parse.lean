import Propositional.Assembly.Tasks
import Propositional.Formula.OfGraph
import Propositional.Grammar.Reading
import Propositional.Graph.Description
import Propositional.Text.Blank

/-!
# Parsing a formula

A source is normalized, the result is read by the grammar, and the derivation is
turned into the nodes of a graph. Normalizing puts one pair of parentheses
around the source and drops every blank, so that a binary formula may be written
without its outer parentheses. All positions in messages and diagnostics are
positions in the normalized text.
-/

namespace Propositional

open Log (Traced Event)

/-- Encloses a source in parentheses and drops the blanks. -/
def normalize (source : String) : String :=
  String.ofList (("(" ++ source ++ ")").toList.filter fun c => !Text.isBlank c)

/-- What is reported about a rejected text. -/
def Rejection.events : Rejection → List Event
  | .illegal found =>
    [.illegalCharacter found.character found.position, .readingFailed found.message]
  | .unexpected _ | .unexpectedEnd => [.rejected]

/-- The derivation of a text as it stands. -/
def derive (text : String) : Traced Rejection ParseTree :=
  match ParseTree.ofText text with
  | .ok tree => ⟨[.derived text], .ok tree⟩
  | .error rejection => ⟨rejection.events, .error rejection⟩

/-- Why a source could not be parsed. -/
inductive ParseError
  | grammar (rejection : Rejection)
  | build (refusal : BuildError)
deriving DecidableEq

/-- The reason as a reported failure. -/
def ParseError.fault : ParseError → Fault
  | grammar rejection => rejection.fault
  | build refusal => refusal.fault

/-- Adds the nodes of a parsed source to a graph. -/
def Graph.parse (graph : Graph) (source : String) : Traced ParseError Rooted := do
  let text := normalize source
  .report (.normalized source text)
  let tree ← (derive text).mapError .grammar
  (graph.assemble text tree).mapError .build

/-- The graph of a source. -/
def parse (source : String) : Traced ParseError Rooted :=
  Graph.empty.parse source

end Propositional
