import Propositional.Parse
import Propositional.Proofs.Assembly.Translation
import Propositional.Proofs.Formula.OfGraph
import Propositional.Proofs.Formula.Spelling
import Propositional.Proofs.Grammar.Acceptance

/-!
# Which sources are parsed, and to what

A source is parsed in four steps: it is enclosed in parentheses and loses its
blanks, is read as tokens, derived, and assembled. Of all that only the spelling
is left to say. The parentheses put around a source may turn out to be its own
outermost ones, so a binary formula needs none.

> `outcome_parse_eq_ok_iff`: a source is parsed to the nodes of the formula that
> the normalized source spells.
> `spells_enclosed_iff`: what a text in parentheses spells.
> `parse_spelling`: the sources that are parsed to a formula.
-/

namespace Propositional

open Log (Traced)

/-! ## The normalized source -/

/-- A source without its blanks. -/
def unblanked (source : String) : List Char := source.toList.filter fun c => !Text.isBlank c

theorem toList_normalize (source : String) :
    (normalize source).toList = '(' :: (unblanked source ++ [')']) := by
  have hopening : Text.isBlank '(' = false := by decide
  have hclosing : Text.isBlank ')' = false := by decide
  rw [normalize, unblanked, String.toList_ofList, String.toList_append, String.toList_append,
    List.filter_append, List.filter_append]
  simp [hopening, hclosing]

/-- What may stand between tokens is blank. -/
theorem isBlank_of_isIgnorable {c : Char} (h : isIgnorable c = true) : Text.isBlank c = true := by
  simp only [isIgnorable, Bool.or_eq_true, decide_eq_true_eq] at h
  rcases h with ((rfl | rfl) | rfl) | rfl <;> decide

/-- Nothing is ignored in a normalized source, for its blanks are gone. -/
theorem isIgnorable_normalize {source : String} :
    ∀ c ∈ (normalize source).toList, isIgnorable c = false := by
  intro c hc
  rw [normalize, String.toList_ofList] at hc
  cases hignored : isIgnorable c with
  | false => rfl
  | true => simp [isBlank_of_isIgnorable hignored] at hc

/-! ## Parsing -/

/-- A source is parsed to the nodes of the formula that it spells once it has been
normalized. -/
theorem Graph.outcome_parse_eq_ok_iff {graph : Graph} {source : String} {parsed : Rooted} :
    (graph.parse source).outcome = .ok parsed ↔
      ∃ formula, Spells (normalize source).toList formula ∧
        parsed = ⟨graph.withFormula formula, graph.size⟩ := by
  constructor
  · intro h
    obtain ⟨-, -, h⟩ := Traced.outcome_bind_eq_ok.1 h
    obtain ⟨tree, htree, h⟩ := Traced.outcome_bind_eq_ok.1 h
    rw [Traced.outcome_mapError_eq_ok, outcome_derive, ParseTree.ofText_eq_ok_iff] at htree
    rw [Traced.outcome_mapError_eq_ok, outcome_assemble] at h
    obtain ⟨hlegal, hderives⟩ := htree
    obtain ⟨formula, -, hformula⟩ := spells_of_derives hderives fun _ => readFrom_of_mem_tokensFrom
    rw [hformula] at h
    cases h
    exact ⟨formula, (spells_iff_derives isIgnorable_normalize).2
      ⟨hlegal, tree, hderives, hformula⟩, rfl⟩
  · intro h
    obtain ⟨formula, hspells, rfl⟩ := h
    obtain ⟨hlegal, tree, hderives, hformula⟩ :=
      (spells_iff_derives isIgnorable_normalize).1 hspells
    refine Traced.outcome_bind_eq_ok.2 ⟨(), rfl, Traced.outcome_bind_eq_ok.2 ⟨tree, ?_, ?_⟩⟩
    · rw [Traced.outcome_mapError_eq_ok, outcome_derive, ParseTree.ofText_eq_ok_iff]
      exact ⟨hlegal, hderives⟩
    · rw [Traced.outcome_mapError_eq_ok, outcome_assemble, hformula]
      rfl

/-! ## The parentheses around a source -/

/-- The characters are a spelling of the formula, or of a binary formula without
its outer parentheses. -/
def SpellsOpenly (chars : List Char) (formula : Formula) : Prop :=
  Spells chars formula ∨
    ∃ op left right lefts rights, formula = .binary op left right ∧
      chars = lefts ++ op.symbol :: rights ∧ Spells lefts left ∧ Spells rights right

/-- Parentheses around a text are a group, or those that a binary formula needs. -/
theorem spells_enclosed_iff {chars : List Char} {formula : Formula} :
    Spells ('(' :: (chars ++ [')'])) formula ↔ SpellsOpenly chars formula := by
  constructor
  · intro h
    generalize henclosed : '(' :: (chars ++ [')']) = enclosed at h
    cases h with
    | atom hc => cases chars <;> cases henclosed
    | negation _ => cases henclosed
    | @binary op lefts rights left right hleft hright =>
      -- the parentheses around the text are those of the binary formula
      have hchars : chars ++ [')'] = (lefts ++ op.symbol :: rights) ++ [')'] := by
        rw [(List.cons.inj henclosed).2, List.append_assoc, List.cons_append]
      exact .inr ⟨op, left, right, lefts, rights, rfl, List.append_cancel_right hchars, hleft,
        hright⟩
    | group hformula =>
      have hchars := List.append_cancel_right (List.cons.inj henclosed).2
      rw [hchars]
      exact .inl hformula
  · intro h
    rcases h with hformula | ⟨op, left, right, lefts, rights, rfl, rfl, hleft, hright⟩
    · exact .group hformula
    · rw [List.append_assoc, List.cons_append]
      exact .binary hleft hright

/-- A source is parsed to the nodes of the formula that it spells. -/
theorem parse_eq_ok_iff {source : String} {parsed : Rooted} :
    (parse source).outcome = .ok parsed ↔
      ∃ formula, SpellsOpenly (unblanked source) formula ∧
        parsed = ⟨Graph.empty.withFormula formula, 0⟩ := by
  simp only [parse, Graph.outcome_parse_eq_ok_iff, toList_normalize, spells_enclosed_iff,
    Graph.size_empty]

/-- **Which sources are parsed, and to what.** A source is parsed to a root that
holds a formula exactly when the source without its blanks spells the formula, or
spells it as a binary one without its outer parentheses. Sources that spell
nothing are not parsed, and none spells two formulas. -/
theorem parse_spelling (source : String) :
    (∀ formula,
      (∃ parsed, (parse source).outcome = .ok parsed ∧
        parsed.graph.HasOutline (some parsed.root) (.node .root formula.outline .missing) ∧
        parsed.graph.formula? parsed.root = some formula) ↔
      SpellsOpenly (unblanked source) formula) ∧
    ((∃ parsed, (parse source).outcome = .ok parsed) ↔
      ∃ formula, SpellsOpenly (unblanked source) formula) ∧
    ∀ formula other, SpellsOpenly (unblanked source) formula →
      SpellsOpenly (unblanked source) other → formula = other := by
  have hparse {parsed : Rooted} : (parse source).outcome = .ok parsed ↔
      ∃ formula, SpellsOpenly (unblanked source) formula ∧
        parsed = ⟨Graph.empty.withFormula formula, 0⟩ := by
    simp only [parse, Graph.outcome_parse_eq_ok_iff, toList_normalize, spells_enclosed_iff,
      Graph.size_empty]
  have hstands (formula : Formula) :
      (Graph.empty.withFormula formula).formula? 0 = some formula :=
    Graph.formula?_withFormula Graph.tidy_empty formula
  refine ⟨fun formula => ⟨?_, fun h => ?_⟩, ?_, fun formula other h hother => ?_⟩
  · intro h
    obtain ⟨parsed, hok, -, hformula⟩ := h
    obtain ⟨spelled, hspelled, rfl⟩ := hparse.1 hok
    cases (hstands spelled).symm.trans hformula
    exact hspelled
  · exact ⟨_, hparse.2 ⟨formula, h, rfl⟩, Graph.hasOutline_withFormula .empty formula,
      hstands formula⟩
  · constructor
    · intro h
      obtain ⟨parsed, hok⟩ := h
      obtain ⟨formula, hspelled, -⟩ := hparse.1 hok
      exact ⟨formula, hspelled⟩
    · intro h
      obtain ⟨formula, hspelled⟩ := h
      exact ⟨_, hparse.2 ⟨formula, hspelled, rfl⟩⟩
  · exact (spells_enclosed_iff.2 h).unique (spells_enclosed_iff.2 hother)

end Propositional
