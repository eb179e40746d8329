import Propositional.Graph.Description
import Propositional.Proofs.Formula.OfGraph

/-!
# Descriptions by recursion

A description is computed from the leaves up, in a table with an entry for each
node. It comes to what the recursion over the outline says.

> `describe?_eq_of_traversal`: the description of a node below which no node is met
> twice is that of its outline.
> `describe?_withFormula`: the description of the root of a formula.
-/

namespace Propositional

/-- A child that is not there is described like one whose description is the text
for a missing child. -/
theorem Kind.describe_congr {kind : Kind} {left left' right right' : Option String}
    (hleft : left.getD missingText = left'.getD missingText)
    (hright : right.getD missingText = right'.getD missingText) :
    kind.describe left right = kind.describe left' right' := by
  unfold Kind.describe
  rw [hleft, hright]

/-- Folding an outline with the description of each node describes the outline; only
a missing outline has no description of its own. -/
theorem Outline.exists_fold?_describe (outline : Outline) :
    ∃ text?, outline.fold? (fun kind left right => some (kind.describe left right)) = some text? ∧
      text?.getD missingText = outline.describe ∧
      (outline ≠ .missing → text? = some outline.describe) := by
  induction outline with
  | missing => exact ⟨none, rfl, rfl, fun h => absurd rfl h⟩
  | node kind left right ihl ihr =>
    obtain ⟨left?, hleft, hleft', -⟩ := ihl
    obtain ⟨right?, hright, hright', -⟩ := ihr
    have hdescribe : kind.describe left? right? = (node kind left right).describe :=
      Kind.describe_congr hleft' hright'
    refine ⟨some (node kind left right).describe, ?_, rfl, fun _ => rfl⟩
    rw [fold?, hleft, hright, ← hdescribe]
    rfl

namespace Graph

/-- The description of a node is that of its outline. -/
theorem describe?_eq_of_traversal {graph : Graph} (htidy : graph.Tidy) {id : NodeId}
    {ids : List NodeId} {outline : Outline} (h : graph.Traversal (some id) ids)
    (hnodup : ids.Nodup) (houtline : graph.HasOutline (some id) outline) :
    graph.describe? id = some outline.describe := by
  obtain ⟨text?, hfold, -, htext⟩ := outline.exists_fold?_describe
  have hne : outline ≠ .missing := by
    rintro rfl
    cases houtline
  rw [describe?, foldUp_eq_of_traversal htidy h hnodup houtline, hfold, htext hne]
  rfl

/-- The root of a formula is described by what it holds. -/
theorem describe?_withFormula {graph : Graph} (htidy : graph.Tidy) (formula : Formula) :
    (graph.withFormula formula).describe? graph.size =
      some (Outline.node .root formula.outline .missing).describe :=
  describe?_eq_of_traversal (htidy.withFormula formula) (graph.traversal_withFormula formula)
    List.nodup_range' (graph.hasOutline_withFormula formula)

end Graph

end Propositional
