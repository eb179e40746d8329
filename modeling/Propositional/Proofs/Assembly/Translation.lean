import Propositional.Assembly.Builder
import Propositional.Proofs.Assembly.Run

/-!
# Building is translating

A builder works through a list of tasks and changes a graph under way; the
translation of a parse tree is a plain recursion that knows neither. This file
shows that nothing else can be told of the two.

> `assemble_eq`: what a build reports and returns, in terms of the translation.
> `build_eq_translation`: whatever was built before, a builder returns the nodes
> of the translated formula or the first error of the translation, with the
> same diagnostics, and trees with equal cores cannot be told apart.

The *core* of a parse tree is what is left when all symbols are forgotten, and
with them the outer children of a node with three or five children.
-/

namespace Propositional

open Log (Traced Event)

/-! ## Assembling -/

namespace Graph

/-- Assembling a parse tree is translating it and adding the nodes of the
formula, with one more event at the end. -/
theorem assemble_eq (graph : Graph) (text : String) (tree : ParseTree) :
    graph.assemble text tree =
      match tree.formula? text.toList .root .left with
      | ⟨events, .ok formula⟩ =>
        ⟨events ++ [.built text ((graph.withFormula formula).preorder graph.size).length],
          .ok ⟨graph.withFormula formula, graph.size⟩⟩
      | ⟨events, .error refusal⟩ =>
        ⟨events ++ [.buildFailed refusal.fault.category.name refusal.fault.message],
          .error refusal⟩ := by
  have hrun := Assembly.run_cons text.toList tree .root .left (graph.push .root) graph.size _ []
    (node?_push_size graph .root) rfl rfl
  simp only [plant_root, Assembly.run_nil] at hrun
  unfold assemble
  dsimp only
  rw [hrun]
  obtain ⟨events, outcome⟩ := tree.formula? text.toList .root .left
  cases outcome with
  | error refusal => rfl
  | ok formula => rw [Traced.ok_bind_pure]

/-- The nodes that assembling a parse tree leads to, or its first error. -/
theorem outcome_assemble (graph : Graph) (text : String) (tree : ParseTree) :
    (graph.assemble text tree).outcome =
      (tree.formula? text.toList .root .left).outcome.map fun formula =>
        ⟨graph.withFormula formula, graph.size⟩ := by
  rw [assemble_eq]
  obtain ⟨events, outcome⟩ := tree.formula? text.toList .root .left
  cases outcome <;> rfl

theorem diagnostics_assemble (graph : Graph) (text : String) (tree : ParseTree) :
    (graph.assemble text tree).diagnostics =
      (tree.formula? text.toList .root .left).diagnostics := by
  rw [assemble_eq]
  obtain ⟨events, outcome⟩ := tree.formula? text.toList .root .left
  cases outcome <;>
    simp only [Traced.diagnostics, List.filterMap_append, List.filterMap_cons, Diagnostic.ofEvent?,
      List.filterMap_nil, List.append_nil]

end Graph

/-! ## What a translation depends on -/

namespace ParseTree

/-- What stands in the place of a child that plays no part. -/
def blank : ParseTree := .leaf ⟨0, 0⟩

/-- The children of a node with the outer ones of three or five blanked out. -/
def coreChildren : List ParseTree → List ParseTree
  | [_, inner, _] => [blank, inner, blank]
  | [_, left, sign, right, _] => [blank, left, sign, right, blank]
  | children => children

mutual

/-- The tree without its symbols and without the outer children of its nodes with
three or five children. -/
def core : ParseTree → ParseTree
  | leaf span => leaf span
  | node _ children => node "" (coreChildren (coreAll children))

/-- The cores of several trees. -/
def coreAll : List ParseTree → List ParseTree
  | [] => []
  | tree :: rest => core tree :: coreAll rest

end

theorem length_coreAll (trees : List ParseTree) : (coreAll trees).length = trees.length := by
  induction trees with
  | nil => rfl
  | cons tree rest ih => rw [coreAll, List.length_cons, List.length_cons, ih]

theorem readCharacter_core (text : List Char) (tree : ParseTree) :
    readCharacter text tree.core = readCharacter text tree := by
  cases tree <;> simp only [core, readCharacter]

/-- The translation of a tree is that of its core. -/
theorem formula?_core (text : List Char) (tree : ParseTree) (kind : Kind) (slot : Slot) :
    tree.core.formula? text kind slot = tree.formula? text kind slot := by
  fun_induction ParseTree.formula? text tree kind slot with
  | case1 span kind slot => rw [core, formula?]
  | case2 symbol letter kind slot =>
    simp only [core, coreAll, coreChildren, formula?, readAtom, readCharacter_core]
  | case3 symbol sign operand kind slot ih =>
    simp only [core, coreAll, coreChildren, formula?, readNegation, readConnective,
      readCharacter_core, ih]
  | case4 symbol opening inner closing kind slot ih =>
    simp only [core, coreAll, coreChildren, formula?, ih]
  | case5 symbol opening left sign right closing kind slot ihl ihr =>
    simp only [core, coreAll, coreChildren, formula?, readOperator, readConnective,
      readCharacter_core, ihl, ihr]
  | case6 symbol children kind slot hone htwo hthree hfive =>
    rcases children with _ | ⟨a, _ | ⟨b, _ | ⟨c, _ | ⟨d, _ | ⟨e, _ | ⟨f, rest⟩⟩⟩⟩⟩⟩
    · rfl
    · exact (hone _ rfl).elim
    · exact (htwo _ _ rfl).elim
    · exact (hthree _ _ _ rfl).elim
    · rfl
    · exact (hfive _ _ _ _ _ rfl).elim
    · simp only [core, coreAll, coreChildren, formula?, List.length_cons, length_coreAll]

end ParseTree

/-- Trees with the same core are assembled in the same way. -/
theorem Graph.assemble_eq_of_core {tree other : ParseTree} (h : other.core = tree.core)
    (graph : Graph) (text : String) : graph.assemble text other = graph.assemble text tree := by
  have hformula : other.formula? text.toList .root .left = tree.formula? text.toList .root .left :=
    calc other.formula? text.toList .root .left
        = other.core.formula? text.toList .root .left := (other.formula?_core ..).symm
      _ = tree.formula? text.toList .root .left := by rw [h, ParseTree.formula?_core]
  rw [assemble_eq, assemble_eq, hformula]

/-- The builder after some builds. -/
def Builder.afterBuilds (builder : Builder) (history : List ParseTree) : Builder :=
  history.foldl (fun builder tree => (builder.build tree).1) builder

/-- No build changes the text of the builder. -/
theorem Builder.text_afterBuilds (builder : Builder) (history : List ParseTree) :
    (builder.afterBuilds history).text = builder.text := by
  induction history generalizing builder with
  | nil => rfl
  | cons tree history ih => exact ih (builder.build tree).1

/-- **Building is translating.** A builder that has built any trees before, with
or without success, answers for the next one what its translation says. On
success the nodes are those of the translated formula below a root, on failure
the error is the one that the translation meets first, and the diagnostics are
the same in either case. A tree with the same core leads to the same answer. -/
theorem build_eq_translation (text : String) (history : List ParseTree) (tree : ParseTree) :
    let builder := (Builder.ofText text).afterBuilds history
    let translated := tree.formula? text.toList .root .left
    ((builder.build tree).2.outcome =
      translated.outcome.map fun formula => ⟨Graph.empty.withFormula formula, 0⟩) ∧
    (∀ formula, (Graph.empty.withFormula formula).HasOutline (some 0)
      (.node .root formula.outline .missing)) ∧
    (builder.build tree).1.diagnostics = translated.diagnostics ∧
    ∀ other : ParseTree, other.core = tree.core → builder.build other = builder.build tree := by
  intro builder translated
  have htext : builder.text = text := (Builder.ofText text).text_afterBuilds history
  refine ⟨?_, Graph.hasOutline_withFormula .empty, ?_, ?_⟩
  · show (Graph.empty.assemble builder.text tree).outcome = _
    rw [htext, Graph.outcome_assemble]
    rfl
  · show (Graph.empty.assemble builder.text tree).diagnostics = _
    rw [htext, Graph.diagnostics_assemble]
  · intro other hcore
    unfold Builder.build
    rw [Graph.assemble_eq_of_core hcore]

/-- Neither the symbols nor what stands in the place of the parentheses is read, be it a
leaf outside the text or a node without children. -/
theorem enclosed_letter_built_by_core :
    ∃ tree other : ParseTree, other.leaves ≠ tree.leaves ∧ other.core = tree.core ∧
      (Builder.ofText "(p)").build other = (Builder.ofText "(p)").build tree ∧
      ((Builder.ofText "(p)").build tree).2.outcome =
        .ok ⟨Graph.empty.withFormula (.atom "P"), 0⟩ := by
  have hcore : (ParseTree.node "group" [.leaf ⟨7, 9⟩, .node "" [.leaf ⟨1, 2⟩], .node "" []]).core =
      (ParseTree.node "formula"
        [.leaf ⟨0, 1⟩, .node "formula" [.leaf ⟨1, 2⟩], .leaf ⟨2, 3⟩]).core := rfl
  obtain ⟨hbuilt, -, -, hother⟩ := build_eq_translation "(p)" []
    (.node "formula" [.leaf ⟨0, 1⟩, .node "formula" [.leaf ⟨1, 2⟩], .leaf ⟨2, 3⟩])
  exact ⟨_, _, by decide, hcore, hother _ hcore, hbuilt⟩

end Propositional
