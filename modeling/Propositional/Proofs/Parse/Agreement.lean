import Propositional.Parse
import Propositional.Proofs.Assembly.Translation
import Propositional.Proofs.Formula.Spelling
import Propositional.Proofs.Grammar.Acceptance

/-!
# The grammar and the builder agree

A builder checks again what a derivation already guarantees: how many children a
node has, that leaves stand where leaves belong, that they cover something, and
that what they cover is a letter or the right connective. Each check has a
refusal of its own, and a builder that is handed an arbitrary tree meets all of
them. On the trees of the grammar it meets none:

> `exists_standsFor_of_derive`: the derivation of a text stands for a formula.
> `outcome_parse`: what is left of parsing is the verdict of the grammar.
> `derived_trees_build`: a derivation is always built, so a source is either
> parsed or rejected by the grammar.
-/

namespace Propositional

open Log (Traced)

/-- The derivation of a text stands for a formula over that text. -/
theorem exists_standsFor_of_derive {text : String} {tree : ParseTree}
    (h : (derive text).outcome = .ok tree) :
    ∃ formula, tree.StandsFor text.toList formula := by
  rw [outcome_derive, ParseTree.ofText_eq_ok_iff] at h
  obtain ⟨-, hderives⟩ := h
  obtain ⟨formula, -, hformula⟩ :=
    spells_of_derives hderives fun _ => readFrom_of_mem_tokensFrom
  exact ⟨formula, hformula⟩

/-- Over its own text, a derivation is assembled to the nodes of a formula. -/
theorem exists_assemble_of_derive {text : String} {tree : ParseTree}
    (h : (derive text).outcome = .ok tree) (graph : Graph) :
    ∃ formula, (graph.assemble text tree).outcome =
      .ok ⟨graph.withFormula formula, graph.size⟩ := by
  obtain ⟨formula, hformula⟩ := exists_standsFor_of_derive h
  refine ⟨formula, ?_⟩
  rw [Graph.outcome_assemble, hformula]
  rfl

/-- Parsing has the verdict of the grammar on the normalized source; only a tree
that the grammar returns gets as far as the builder. -/
theorem Graph.outcome_parse (graph : Graph) (source : String) :
    (graph.parse source).outcome =
      match (derive (normalize source)).outcome with
      | .ok tree => (graph.assemble (normalize source) tree).outcome.mapError .build
      | .error rejection => .error (.grammar rejection) := by
  unfold parse
  simp only [Traced.outcome_bind, Traced.report, Traced.mapError]
  cases (derive (normalize source)).outcome with
  | ok tree => rfl
  | error rejection => rfl

/-- Parsing fails only with the verdict of the grammar. -/
theorem parse_eq_error_iff {source : String} {reason : ParseError} :
    (parse source).outcome = .error reason ↔
      ∃ rejection, (derive (normalize source)).outcome = .error rejection ∧
        reason = .grammar rejection := by
  rw [parse, Graph.outcome_parse]
  cases hderive : (derive (normalize source)).outcome with
  | ok tree =>
    obtain ⟨formula, hbuilt⟩ := exists_assemble_of_derive hderive .empty
    dsimp only
    rw [hbuilt]
    constructor
    · intro h
      cases h
    · intro h
      obtain ⟨rejection, hrejection, -⟩ := h
      cases hrejection
  | error rejection =>
    simp only [Except.error.injEq, exists_eq_left', eq_comm]

/-- **The grammar and the builder agree.** Whatever a builder has built before, it
builds every tree that the grammar derives from its text, without any of its
refusals. So a source is parsed, or the grammar rejects the normalized source and
this rejection is all that parsing reports. -/
theorem derived_trees_build :
    (∀ (text : String) (history : List ParseTree) (tree : ParseTree),
      (derive text).outcome = .ok tree →
      ∃ built, (((Builder.ofText text).afterBuilds history).build tree).2.outcome = .ok built) ∧
    ∀ source : String,
      (∃ parsed, (parse source).outcome = .ok parsed) ∨
      ∃ rejection, (derive (normalize source)).outcome = .error rejection ∧
        (parse source).outcome = .error (.grammar rejection) ∧
        (ParseError.grammar rejection).fault.category = .grammar := by
  constructor
  · intro text history tree h
    obtain ⟨formula, hbuilt⟩ := exists_assemble_of_derive h .empty
    have htext : ((Builder.ofText text).afterBuilds history).text = text :=
      (Builder.ofText text).text_afterBuilds history
    refine ⟨⟨Graph.empty.withFormula formula, Graph.empty.size⟩, ?_⟩
    show (Graph.empty.assemble ((Builder.ofText text).afterBuilds history).text tree).outcome = _
    rw [htext]
    exact hbuilt
  · intro source
    have hparse := Graph.outcome_parse .empty source
    cases hderive : (derive (normalize source)).outcome with
    | ok tree =>
      obtain ⟨formula, hbuilt⟩ := exists_assemble_of_derive hderive .empty
      rw [hderive] at hparse
      dsimp only at hparse
      rw [hbuilt] at hparse
      exact .inl ⟨_, hparse⟩
    | error rejection =>
      rw [hderive] at hparse
      exact .inr ⟨rejection, rfl, hparse, rfl⟩

/-- A connective below another one is built, also by a builder that has refused a tree
before. -/
theorem nested_derivation_built :
    ∃ tree built, (derive "(¬p∧(q→r))").outcome = .ok tree ∧
      ((Builder.ofText "(¬p∧(q→r))").build (.leaf ⟨0, 0⟩)).2.outcome = .error .noChildren ∧
      (((Builder.ofText "(¬p∧(q→r))").afterBuilds [.leaf ⟨0, 0⟩]).build tree).2.outcome =
        .ok built := by
  have hrefused : ((Builder.ofText "(¬p∧(q→r))").build (.leaf ⟨0, 0⟩)).2.outcome =
      .error .noChildren := Graph.outcome_assemble ..
  have hderive : ∃ tree, (derive "(¬p∧(q→r))").outcome = .ok tree := ⟨_, rfl⟩
  obtain ⟨tree, htree⟩ := hderive
  obtain ⟨built, hbuilt⟩ := derived_trees_build.1 _ [.leaf ⟨0, 0⟩] tree htree
  exact ⟨tree, built, htree, hrefused, hbuilt⟩

end Propositional
