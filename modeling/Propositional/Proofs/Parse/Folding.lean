import Propositional.Proofs.Graph.Description
import Propositional.Proofs.Parse.Agreement
import Propositional.Proofs.Parse.Diagnostic

/-!
# Blanks and case play no part

Two sources that are the same but for their blanks and the case of their letters
are parsed alike: to the same nodes, or to the same rejection at the same position.
The normalized sources have the same lexemes, so the grammar cannot tell them
apart; and a character that is read again later names the same atom or connective
in both.

> `lexemesFrom_eq_of_folded`: texts that differ in case have the same lexemes.
> `Spells.of_folded`: they spell the same formulas.
> `parse_folded`: the outcome is the same, and the diagnostics differ only in which
> letters are lowercase.
-/

namespace Propositional

/-- A source without its blanks and with every letter in uppercase. -/
def folded (source : String) : List Char := (unblanked source).map Char.toUpper

theorem map_toUpper_normalize (source : String) :
    (normalize source).toList.map Char.toUpper = '(' :: (folded source ++ [')']) := by
  rw [toList_normalize, List.map_cons, List.map_append]
  rfl

/-! ## Lexemes -/

theorem isIgnorable_eq_of_toUpper_eq {c d : Char} (h : c.toUpper = d.toUpper) :
    isIgnorable c = isIgnorable d := by
  rcases Text.eq_or_isAlpha_of_toUpper_eq h with rfl | ⟨hc, hd⟩
  · rfl
  · rw [isIgnorable_eq_false (.inl hc), isIgnorable_eq_false (.inl hd)]

/-- The case of a letter does not show in its lexeme, and no other character has a
case. -/
theorem Lexeme.ofChar_eq_of_toUpper_eq {c d : Char} (h : c.toUpper = d.toUpper) (line : Int)
    (index : Nat) : Lexeme.ofChar line index c = Lexeme.ofChar line index d := by
  rcases Text.eq_or_isAlpha_of_toUpper_eq h with rfl | ⟨hc, hd⟩
  · rfl
  · have hkindc : Token.Kind.ofChar? c = some .atom := Token.Kind.ofChar?_eq_some_iff.2 hc
    have hkindd : Token.Kind.ofChar? d = some .atom := Token.Kind.ofChar?_eq_some_iff.2 hd
    rw [ofChar, ofChar, hkindc, hkindd]

/-- Texts that differ in case have the same lexemes. -/
theorem lexemesFrom_eq_of_folded {chars others : List Char}
    (h : chars.map Char.toUpper = others.map Char.toUpper) (line : Int) (index : Nat) :
    lexemesFrom line index chars = lexemesFrom line index others := by
  induction chars generalizing others index with
  | nil =>
    rw [List.map_eq_nil_iff.1 h.symm]
  | cons c chars ih =>
    obtain ⟨d, others, rfl, hd, hothers⟩ := List.map_eq_cons_iff.1 h.symm
    rw [lexemesFrom, lexemesFrom, isIgnorable_eq_of_toUpper_eq hd,
      Lexeme.ofChar_eq_of_toUpper_eq hd, ih hothers.symm]

/-! ## Spellings -/

/-- Texts that differ in case spell the same formulas. -/
theorem Spells.of_folded {chars : List Char} {formula : Formula} (h : Spells chars formula) :
    ∀ {others : List Char}, others.map Char.toUpper = chars.map Char.toUpper →
      Spells others formula := by
  have hopening : ∀ {c : Char}, c.toUpper = '('.toUpper → c = '(' :=
    fun hc => Text.eq_of_toUpper_eq hc rfl
  have hclosing : ∀ {c : Char}, c.toUpper = ')'.toUpper → c = ')' :=
    fun hc => Text.eq_of_toUpper_eq hc rfl
  induction h with
  | @atom c hc =>
    intro others hothers
    obtain ⟨d, rfl, hd⟩ := List.map_eq_singleton_iff.1 hothers
    have halpha : d.isAlpha = true := by
      rw [← Char.isAlpha_toUpper_eq_isAlpha, hd, Char.isAlpha_toUpper_eq_isAlpha, hc]
    rw [← hd]
    exact .atom halpha
  | negation _ ih =>
    intro others hothers
    obtain ⟨sign, others, rfl, hsign, hrest⟩ := List.map_eq_cons_iff.1 hothers
    rw [Text.eq_of_toUpper_eq hsign rfl]
    exact .negation (ih hrest)
  | @binary op lefts rights left right _ _ ihl ihr =>
    intro others hothers
    rw [List.map_cons, List.map_append, List.map_cons, List.map_append] at hothers
    obtain ⟨first, others, rfl, hfirst, hrest⟩ := List.map_eq_cons_iff.1 hothers
    obtain ⟨before, behind, rfl, hbefore, hbehind⟩ := List.map_eq_append_iff.1 hrest
    obtain ⟨sign, behind, rfl, hsign, hrest'⟩ := List.map_eq_cons_iff.1 hbehind
    obtain ⟨after, ends, rfl, hafter, hends⟩ := List.map_eq_append_iff.1 hrest'
    obtain ⟨last, rfl, hlast⟩ := List.map_eq_singleton_iff.1 hends
    have hother : op.symbol.isAlpha = false := by cases op <;> rfl
    rw [hopening hfirst, hclosing hlast, Text.eq_of_toUpper_eq hsign hother]
    exact .binary (ihl hbefore) (ihr hafter)
  | group _ ih =>
    intro others hothers
    rw [List.map_cons, List.map_append] at hothers
    obtain ⟨first, others, rfl, hfirst, hrest⟩ := List.map_eq_cons_iff.1 hothers
    obtain ⟨inner, ends, rfl, hinner, hends⟩ := List.map_eq_append_iff.1 hrest
    obtain ⟨last, rfl, hlast⟩ := List.map_eq_singleton_iff.1 hends
    rw [hopening hfirst, hclosing hlast]
    exact .group (ih hinner)

/-! ## Parsing -/

/-- Sources with the same folded text are parsed to the same nodes or rejected for the
same reason. -/
theorem outcome_parse_eq_of_folded {a b : String} (h : folded a = folded b) :
    (parse a).outcome = (parse b).outcome := by
  have hnormalized : (normalize a).toList.map Char.toUpper =
      (normalize b).toList.map Char.toUpper := by
    rw [map_toUpper_normalize, map_toUpper_normalize, h]
  have hderive : (derive (normalize a)).outcome = (derive (normalize b)).outcome := by
    rw [outcome_derive, outcome_derive, ParseTree.ofText, ParseTree.ofText, lexemes, lexemes,
      lexemesFrom_eq_of_folded hnormalized]
  cases hparse : (parse a).outcome with
  | ok parsed =>
    obtain ⟨formula, hformula, rfl⟩ := Graph.outcome_parse_eq_ok_iff.1 hparse
    exact (Graph.outcome_parse_eq_ok_iff.2
      ⟨formula, hformula.of_folded hnormalized.symm, rfl⟩).symm
  | error reason =>
    obtain ⟨rejection, hrejection, rfl⟩ := parse_eq_error_iff.1 hparse
    exact (parse_eq_error_iff.2 ⟨rejection, hderive ▸ hrejection, rfl⟩).symm

/-- Every diagnostic of the first source that the second one lacks is about a letter
that the first has in lowercase and the second, at the same position, in uppercase. -/
def LacksOnlyUppercase (a b : String) : Prop :=
  ∀ diagnostic ∈ (parse a).diagnostics, diagnostic ∉ (parse b).diagnostics →
    ∃ (c : Char) (k : Nat), diagnostic = .lowercase c.toString k ∧ (normalize a).toList[k]? = some c ∧
      c.isLower = true ∧ (normalize b).toList[k]? = some c.toUpper

theorem lacksOnlyUppercase_of_folded {a b : String} (h : folded a = folded b)
    (ha : (parse a).diagnostics = lowercaseFrom 0 (normalize a).toList)
    (hb : (parse b).diagnostics = lowercaseFrom 0 (normalize b).toList) :
    LacksOnlyUppercase a b := by
  intro diagnostic hmem hlacks
  rw [ha, mem_lowercaseFrom_iff] at hmem
  rw [hb, mem_lowercaseFrom_iff] at hlacks
  obtain ⟨c, k, hc, hlower, rfl⟩ := hmem
  have hupper : ((normalize b).toList.map Char.toUpper)[k]? = some c.toUpper := by
    rw [map_toUpper_normalize, ← h, ← map_toUpper_normalize, List.getElem?_map, hc]
    rfl
  rw [List.getElem?_map, Option.map_eq_some_iff] at hupper
  obtain ⟨d, hd, hsame⟩ := hupper
  refine ⟨c, k, rfl, hc, hlower, ?_⟩
  by_cases hdlower : d.isLower = true
  · -- then the second source has the same letter, and the diagnostic, too
    rw [Text.eq_of_isLower_of_toUpper_eq hsame hdlower hlower] at hd
    exact absurd ⟨c, k, hd, hlower, rfl⟩ hlacks
  · rw [hd, ← hsame, Char.toUpper_eq_of_not_isLower hdlower]

/-- **Blanks and case play no part.** Two sources that are the same without their
blanks and but for the case of their letters are parsed to the same nodes, which have
one description and stand for one formula, or they are rejected for the same reason.
The diagnostics are those of the lowercase letters of each, and no others differ. -/
theorem parse_folded {a b : String} (h : folded a = folded b) :
    (∃ parsed description formula,
      (parse a).outcome = .ok parsed ∧ (parse b).outcome = .ok parsed ∧
      parsed.graph.describe? parsed.root = some description ∧
      parsed.graph.formula? parsed.root = some formula ∧
      (parse a).diagnostics = lowercaseFrom 0 (normalize a).toList ∧
      (parse b).diagnostics = lowercaseFrom 0 (normalize b).toList ∧
      LacksOnlyUppercase a b ∧ LacksOnlyUppercase b a) ∨
    (∃ rejection, (parse a).outcome = .error (.grammar rejection) ∧
      (parse b).outcome = .error (.grammar rejection)) := by
  have hsame := outcome_parse_eq_of_folded h
  cases hparse : (parse a).outcome with
  | ok parsed =>
    rw [hparse] at hsame
    have ha : (parse a).diagnostics = _ := Graph.diagnostics_parse hparse
    have hb : (parse b).diagnostics = _ := Graph.diagnostics_parse hsame.symm
    obtain ⟨formula, -, rfl⟩ := parse_eq_ok_iff.1 hparse
    exact .inl ⟨_, _, formula, rfl, hsame.symm,
      Graph.describe?_withFormula Graph.tidy_empty formula,
      Graph.formula?_withFormula Graph.tidy_empty formula, ha, hb,
      lacksOnlyUppercase_of_folded h ha hb, lacksOnlyUppercase_of_folded h.symm hb ha⟩
  | error reason =>
    rw [hparse] at hsame
    obtain ⟨rejection, -, rfl⟩ := parse_eq_error_iff.1 hparse
    exact .inr ⟨rejection, rfl, hsame.symm⟩

/-- A tab, an em space and the case of two letters make no difference to `p→q`. -/
theorem parse_folded_conditional :
    folded "p→q" = folded " P\t→\u2003q" ∧
    ∃ parsed, (parse "p→q").outcome = .ok parsed ∧
      (parse " P\t→\u2003q").outcome = .ok parsed ∧
      LacksOnlyUppercase "p→q" " P\t→\u2003q" := by
  have hfolded : folded "p→q" = folded " P\t→\u2003q" := by decide
  have hparsed : (parse "p→q").outcome = .ok _ :=
    parse_eq_ok_iff.2 ⟨_, .inr ⟨.conditional, _, _, ['p'], ['q'], rfl, by decide, .atom rfl,
      .atom rfl⟩, rfl⟩
  refine ⟨hfolded, ?_⟩
  rcases parse_folded hfolded with ⟨parsed, -, -, ha, hb, -, -, -, -, hlacks, -⟩ | ⟨_, ha, -⟩
  · exact ⟨parsed, ha, hb, hlacks⟩
  · cases hparsed.symm.trans ha

end Propositional
