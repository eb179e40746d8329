import Propositional.Assembly.Tasks

/-!
# Builders

A builder belongs to one text and turns any number of parse trees over that text
into graphs, one after the other. It keeps the diagnostics of its last build,
also of a build that failed, and nothing else: no build depends on an earlier
one.
-/

namespace Propositional

open Log (Traced)

/-- A text, and what the last build over it had to say. -/
structure Builder where
  text : String
  diagnostics : List Diagnostic
deriving DecidableEq

namespace Builder

/-- A builder that has built nothing yet. -/
def ofText (text : String) : Builder := ⟨text, []⟩

/-- The builder after a build, and what came of it. -/
def build (builder : Builder) (tree : ParseTree) : Builder × Traced BuildError Rooted :=
  let result := Graph.empty.assemble builder.text tree
  (⟨builder.text, result.diagnostics⟩, result)

end Builder

end Propositional
