import Propositional.Formula.OfTree
import Propositional.Graph.Evaluation
import Propositional.Proofs.Formula.TruthTable
import Propositional.Proofs.Parse.Spelling

/-!
# Parsing preserves the truth value

A text has a meaning before any node is made of it: the truth value of its derivation,
by recursion on the tree and over the text. The nodes have one as well, by a visit that
does with each what its kind asks for. Both are the value of the formula in between.

> `operation?_symbol`: a connective is the operation of its character.
> `truth?_eq_eval`: a derivation has the value of the formula it stands for.
> `evaluates_of_holds`: the nodes of a formula have the value of the formula.
> `Spells.labels_eq`: the labels of a formula are the letters of its spelling.
> `parsed_truth`: the parsed nodes have the value of the derivation, and the digits of
> the truth table are these values.
-/

namespace Propositional

variable {text : List Char}

/-! ## The value of a derivation -/

namespace ParseTree

/-- The character that a recursion over the tree meets at a token. -/
theorem character?_leaf {token : Token} (h : token.ReadFrom text) :
    token.leaf.character? text = some (token.character text) := by
  show token.span.first? text = some (token.character text)
  rw [Token.span, Span.first?_single, h.getElem?]

/-- A connective combines two values by the operation that its character stands for. -/
theorem operation?_symbol (op : BinaryConnective) : operation? op.symbol = some op.apply := by
  cases op <;> rfl

/-- A derivation has the value of the formula it stands for. -/
theorem truth?_eq_eval {tokens : List Token} {tree : ParseTree} {formula : Formula}
    (h : Denotes text tokens tree formula) (assignment : String → Bool) :
    tree.truth? text assignment = some (formula.eval assignment) := by
  induction h with
  | atom hletter hkind =>
    rw [ParseTree.formula, truth?, character?_leaf hletter, Option.map_some,
      Text.uppercase_of_isAlpha (hletter.writtenAs hkind)]
    rfl
  | negation _ _ _ ih =>
    rw [ParseTree.formula, truth?, ih]
    rfl
  | group _ _ _ _ _ ih => rw [ParseTree.formula, truth?, ih]
  | @binary opening sign closing op _ _ _ _ _ _ _ _ hsign hkind _ _ _ _ ihl ihr =>
    have hsymbol : sign.character text = op.symbol := hsign.writtenAs hkind
    have hfound : (sign.leaf.character? text).bind operation? = some op.apply := by
      rw [character?_leaf hsign, Option.bind_some, hsymbol, operation?_symbol]
    rw [ParseTree.formula, truth?, hfound, ihl, ihr]
    rfl

end ParseTree

/-! ## The value of the nodes -/

/-- Nodes laid out like those of a formula have the value of the formula. -/
theorem Graph.evaluates_of_holds {graph : Graph} {formula : Formula}
    (assignment : String → Bool) :
    ∀ {parent first : NodeId}, graph.Holds first (formula.nodes parent first) →
      graph.Evaluates assignment first (formula.eval assignment) := by
  induction formula with
  | atom label =>
    intro parent first h
    exact .atom (holds_cons.1 h).1
  | negation operand ih =>
    intro parent first h
    obtain ⟨hnode, hoperand⟩ := holds_cons.1 h
    exact .negation hnode (ih hoperand)
  | binary op left right ihl ihr =>
    intro parent first h
    obtain ⟨hnode, hoperands⟩ := holds_cons.1 h
    obtain ⟨hleft, hright⟩ := holds_append.1 hoperands
    rw [Formula.length_nodes] at hright
    exact .binary hnode (ihl hleft) (ihr hright)

/-- The root of a formula has the value of the formula and no other. -/
theorem Graph.evaluates_withFormula (graph : Graph) (formula : Formula)
    (assignment : String → Bool) (result : Bool) :
    (graph.withFormula formula).Evaluates assignment graph.size result ↔
      result = formula.eval assignment := by
  obtain ⟨hroot, hformula⟩ := graph.holds_withFormula formula
  have hvalue := Evaluates.root hroot (evaluates_of_holds assignment hformula)
  constructor
  · intro h
    exact h.unique hvalue
  · intro h
    rw [h]
    exact hvalue

/-! ## Letters -/

/-- The labels of a formula are the letters of its spelling, in uppercase. -/
theorem Spells.labels_eq {chars : List Char} {formula : Formula} (h : Spells chars formula) :
    formula.labels =
      (chars.filter Char.isAlpha).map fun c => String.singleton c.toUpper := by
  have hparens : Char.isAlpha '(' = false ∧ Char.isAlpha ')' = false := ⟨rfl, rfl⟩
  induction h with
  | @atom c hc =>
    rw [List.filter_cons_of_pos hc]
    rfl
  | negation _ ih =>
    rw [Formula.labels, ih]
    rfl
  | @binary op lefts rights left right _ _ ihl ihr =>
    have hsign : op.symbol.isAlpha = false := by cases op <;> rfl
    rw [Formula.labels, ihl, ihr]
    simp [hsign, hparens]
  | group _ ih =>
    rw [ih]
    simp [hparens]

/-! ## Parsed sources -/

/-- The columns are in increasing order, there is one digit for each assignment of
them, and each digit is the value under the assignment of its row. -/
structure Tabulates (columns : List String) (digits : List Char)
    (value? : (String → Bool) → Option Bool) : Prop where
  increasing : columns.Pairwise (· < ·)
  length_eq : digits.length = 2 ^ columns.length
  digit : ∀ row < 2 ^ columns.length, ∀ assignment, Formula.RowOf columns row assignment →
    ∃ value, value? assignment = some value ∧ digits[row]? = some (Formula.truthDigit value)

theorem Formula.tabulates (formula : Formula) :
    Tabulates formula.sortedLabels formula.truthTable.toList
      fun assignment => some (formula.eval assignment) where
  increasing := formula.pairwise_sortedLabels
  length_eq := formula.length_truthTable
  digit _ hrow _ h := ⟨_, rfl, getElem?_truthTable hrow h⟩

/-- **Parsing preserves the truth value.** Whatever the assignment, the root of a
parsed source has exactly the value of the derivation over the normalized source. The
columns of the truth table are the distinct letters of the source in uppercase, and
its digits are these values. -/
theorem parsed_truth {source : String} {parsed : Rooted}
    (h : (parse source).outcome = .ok parsed) :
    ∃ (tree : ParseTree) (formula : Formula),
      (derive (normalize source)).outcome = .ok tree ∧
      parsed.graph.formula? parsed.root = some formula ∧
      (∀ assignment, ∃ value,
        tree.truth? (normalize source).toList assignment = some value ∧
        ∀ result, parsed.graph.Evaluates assignment parsed.root result ↔ result = value) ∧
      (∀ label, label ∈ formula.sortedLabels ↔
        ∃ c ∈ (normalize source).toList, c.isAlpha = true ∧
          label = String.singleton c.toUpper) ∧
      Tabulates formula.sortedLabels formula.truthTable.toList
        (tree.truth? (normalize source).toList) := by
  obtain ⟨formula, hspells, rfl⟩ := Graph.outcome_parse_eq_ok_iff.1 h
  obtain ⟨hlegal, tree, hderives, hformula⟩ :=
    (spells_iff_derives isIgnorable_normalize).1 hspells
  have htree : (derive (normalize source)).outcome = .ok tree := by
    rw [outcome_derive, ParseTree.ofText_eq_ok_iff]
    exact ⟨hlegal, hderives⟩
  have htruth (assignment : String → Bool) :
      tree.truth? (normalize source).toList assignment = some (formula.eval assignment) :=
    ParseTree.truth?_eq_eval
      (hderives.denotes (fun _ => readFrom_of_mem_tokensFrom) hformula) assignment
  refine ⟨tree, formula, htree, Graph.formula?_withFormula Graph.tidy_empty formula,
    fun assignment => ⟨_, htruth assignment, ?_⟩, fun label => ?_, ?_⟩
  · exact Graph.empty.evaluates_withFormula formula assignment
  · rw [Formula.mem_sortedLabels, hspells.labels_eq]
    simp only [List.mem_map, List.mem_filter, and_assoc, eq_comm]
  · rw [funext htruth]
    exact formula.tabulates

/-- In `q→p` the antecedent is on the left, so the value is false when only `Q` is true
and true when only `P` is. The column of `P` comes first in the table, which makes these
two rows its second and its third. -/
theorem parsed_truth_conditional :
    ∃ (parsed : Rooted) (tree : ParseTree) (formula : Formula),
      (parse "q→p").outcome = .ok parsed ∧
      (derive (normalize "q→p")).outcome = .ok tree ∧
      parsed.graph.formula? parsed.root = some formula ∧
      Tabulates formula.sortedLabels formula.truthTable.toList
        (tree.truth? (normalize "q→p").toList) ∧
      formula.truthTable = "1011" ∧
      parsed.graph.Evaluates (fun label => label == "Q") parsed.root false ∧
      tree.truth? (normalize "q→p").toList (fun label => label == "Q") = some false ∧
      parsed.graph.Evaluates (fun label => label == "P") parsed.root true ∧
      tree.truth? (normalize "q→p").toList (fun label => label == "P") = some true := by
  have hparsed : (parse "q→p").outcome =
      .ok ⟨Graph.empty.withFormula (.binary .conditional (.atom "Q") (.atom "P")), 0⟩ :=
    parse_eq_ok_iff.2 ⟨_, .inr ⟨.conditional, _, _, ['q'], ['p'], rfl, by decide, .atom rfl,
      .atom rfl⟩, rfl⟩
  obtain ⟨tree, formula, htree, hformula, hvalue, -, htable⟩ := parsed_truth hparsed
  obtain rfl : Formula.binary .conditional (.atom "Q") (.atom "P") = formula :=
    Option.some.inj ((Graph.formula?_withFormula Graph.tidy_empty _).symm.trans hformula)
  -- The nodes have the value of the formula, and the theorem gives it to the derivation.
  have htruth (assignment : String → Bool) (result : Bool)
      (h : result =
        (Formula.binary .conditional (.atom "Q") (.atom "P")).eval assignment) :
      (Graph.empty.withFormula (.binary .conditional (.atom "Q") (.atom "P"))).Evaluates
          assignment 0 result ∧
        tree.truth? (normalize "q→p").toList assignment = some result := by
    have hroot := (Graph.empty.evaluates_withFormula _ assignment result).2 h
    obtain ⟨value, hderived, hunique⟩ := hvalue assignment
    obtain rfl : result = value := (hunique result).1 hroot
    exact ⟨hroot, hderived⟩
  obtain ⟨hrootQ, hderivedQ⟩ := htruth (fun label => label == "Q") false (by decide)
  obtain ⟨hrootP, hderivedP⟩ := htruth (fun label => label == "P") true (by decide)
  have hdigits :
      (Formula.binary .conditional (.atom "Q") (.atom "P")).truthTable = "1011" := by cbv
  exact ⟨_, tree, _, hparsed, htree, hformula, htable, hdigits, hrootQ, hderivedQ, hrootP,
    hderivedP⟩

end Propositional
