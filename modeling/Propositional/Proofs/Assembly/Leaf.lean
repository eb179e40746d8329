import Propositional.Assembly.Recursive
import Propositional.Grammar.Derivation
import Propositional.Proofs.Log.Traced
import Propositional.Proofs.Text.Ascii
import Propositional.Proofs.Token.Character

/-!
# What the tokens of a text stand for

Reading a leaf can fail in many ways, and none of them happens to a leaf that is
a token of the text: the range is not empty, and what it holds is of the kind
that the token says. So a production of the grammar is translated without a
failure of its own.

> `readAtom_leaf`, `readConnective_leaf`: the reading of a token.
> `formula?_atom`, `formula?_negation`, `formula?_binary`: the translation of a
> production, given those of its formulas.

`StandsFor` keeps of a translation only the formula, which is the same wherever
the tree is translated. `Denotes` is the same for derivations, production by
production, and what is proved about a derivation and its formula follows it.

> `Derives.denotes`: the formula of a derivation is the one that it denotes.
-/

namespace Propositional

open Log (Traced)

variable {text : List Char}

/-! ## Leaves -/

/-- The leaf of a token holds the character of the token. -/
theorem readCharacter_leaf {token : Token} (h : token.ReadFrom text) :
    readCharacter text token.leaf = .ok (token.character text, token.index) := by
  rw [Token.leaf, readCharacter, Token.span, Span.first?_single, h.getElem?]
  rfl

theorem readAtom_leaf {letter : Token} (h : letter.ReadFrom text) (hkind : letter.kind = .atom) :
    readAtom text letter.leaf =
      ⟨caseEvents (letter.character text) letter.index,
        .ok (String.singleton (letter.character text).toUpper)⟩ := by
  have hc : (letter.character text).isAlpha = true := h.writtenAs hkind
  have hlabel : atomLabel (String.ofList (Text.uppercase (letter.character text))) =
      .ok (String.singleton (letter.character text).toUpper) := by
    rw [Text.uppercase_of_isAlpha hc]
    exact atomLabel_toUpper hc
  rw [readAtom, readCharacter_leaf h]
  dsimp only
  rw [if_pos (Text.isLetter_of_isAlpha hc), hlabel]
  rfl

theorem readConnective_leaf {sign : Token} {found : Connective} (h : sign.ReadFrom text)
    (hkind : sign.kind = .connective found) : readConnective text sign.leaf = .ok found := by
  rw [readConnective, readCharacter_leaf h]
  dsimp only
  rw [Connective.ofChar?_eq_some_iff.2 (h.writtenAs hkind)]

theorem readNegation_leaf {sign : Token} (h : sign.ReadFrom text)
    (hkind : sign.kind = .connective .negation) : readNegation text sign.leaf = .ok () := by
  rw [readNegation, readConnective_leaf h hkind]

theorem readOperator_leaf {sign : Token} {op : BinaryConnective} (h : sign.ReadFrom text)
    (hkind : sign.kind = .connective (.binary op)) : readOperator text sign.leaf = .ok op := by
  rw [readOperator, readConnective_leaf h hkind]

/-! ## Productions -/

namespace ParseTree

theorem formula?_atom {letter : Token} (h : letter.ReadFrom text) (hkind : letter.kind = .atom)
    (kind : Kind) (slot : Slot) :
    (formula [letter.leaf]).formula? text kind slot =
      ⟨caseEvents (letter.character text) letter.index ++
          [linkEvent kind slot (.atom (String.singleton (letter.character text).toUpper))],
        .ok (.atom (String.singleton (letter.character text).toUpper))⟩ := by
  rw [formula, formula?, readAtom_leaf h hkind]
  rfl

theorem formula?_negation {sign : Token} (h : sign.ReadFrom text)
    (hkind : sign.kind = .connective .negation) (operand : ParseTree) (kind : Kind)
    (slot : Slot) :
    (formula [sign.leaf, operand]).formula? text kind slot = do
      .report (linkEvent kind slot (.connective .negation))
      let operand ← operand.formula? text (.connective .negation) .right
      return .negation operand := by
  rw [formula, formula?, readNegation_leaf h hkind]
  rfl

theorem formula?_group (opening inner closing : ParseTree) (kind : Kind) (slot : Slot) :
    (formula [opening, inner, closing]).formula? text kind slot =
      inner.formula? text kind slot := by
  rw [formula, formula?]

theorem formula?_binary {sign : Token} {op : BinaryConnective} (h : sign.ReadFrom text)
    (hkind : sign.kind = .connective (.binary op)) (opening left right closing : ParseTree)
    (kind : Kind) (slot : Slot) :
    (formula [opening, left, sign.leaf, right, closing]).formula? text kind slot = do
      .report (linkEvent kind slot (.connective (.binary op)))
      let left ← left.formula? text (.connective (.binary op)) .left
      let right ← right.formula? text (.connective (.binary op)) .right
      return .binary op left right := by
  rw [formula, formula?, readOperator_leaf h hkind]
  rfl

/-! ## Formulas -/

/-- The tree is translated to the formula, whatever it is to be a child of. -/
def StandsFor (text : List Char) (tree : ParseTree) (formula : Formula) : Prop :=
  ∀ kind slot, (tree.formula? text kind slot).outcome = .ok formula

theorem StandsFor.unique {tree : ParseTree} {a b : Formula} (ha : tree.StandsFor text a)
    (hb : tree.StandsFor text b) : a = b :=
  Except.ok.inj ((ha .root .left).symm.trans (hb .root .left))

theorem standsFor_atom {letter : Token} (h : letter.ReadFrom text)
    (hkind : letter.kind = .atom) :
    (formula [letter.leaf]).StandsFor text
      (.atom (String.singleton (letter.character text).toUpper)) := by
  intro kind slot
  rw [formula?_atom h hkind]

theorem standsFor_negation {sign : Token} {operand : ParseTree} {negated : Formula}
    (h : sign.ReadFrom text) (hkind : sign.kind = .connective .negation)
    (hoperand : operand.StandsFor text negated) :
    (formula [sign.leaf, operand]).StandsFor text (.negation negated) := by
  intro kind slot
  rw [formula?_negation h hkind, Traced.outcome_bind_eq_ok]
  exact ⟨(), rfl, Traced.outcome_bind_eq_ok.2 ⟨negated, hoperand .., rfl⟩⟩

theorem standsFor_group {inner : ParseTree} {enclosed : Formula} (opening closing : ParseTree)
    (hinner : inner.StandsFor text enclosed) :
    (formula [opening, inner, closing]).StandsFor text enclosed := by
  intro kind slot
  rw [formula?_group, hinner]

theorem standsFor_binary {sign : Token} {op : BinaryConnective} {left right : ParseTree}
    {before behind : Formula} (h : sign.ReadFrom text)
    (hkind : sign.kind = .connective (.binary op)) (opening closing : ParseTree)
    (hleft : left.StandsFor text before) (hright : right.StandsFor text behind) :
    (formula [opening, left, sign.leaf, right, closing]).StandsFor text
      (.binary op before behind) := by
  intro kind slot
  rw [formula?_binary h hkind, Traced.outcome_bind_eq_ok]
  refine ⟨(), rfl, Traced.outcome_bind_eq_ok.2 ⟨before, hleft .., ?_⟩⟩
  exact Traced.outcome_bind_eq_ok.2 ⟨behind, hright .., rfl⟩

end ParseTree

/-! ## Derivations and their formulas -/

/-- The tokens were read from the text, and their derivation stands for the formula. -/
inductive Denotes (text : List Char) : List Token → ParseTree → Formula → Prop
  | atom {letter : Token} (hletter : letter.ReadFrom text) (hkind : letter.kind = .atom) :
      Denotes text [letter] (.formula [letter.leaf])
        (.atom (String.singleton (letter.character text).toUpper))
  | negation {sign : Token} {tokens : List Token} {operand : ParseTree} {negated : Formula}
      (hsign : sign.ReadFrom text) (hkind : sign.kind = .connective .negation)
      (hoperand : Denotes text tokens operand negated) :
      Denotes text (sign :: tokens) (.formula [sign.leaf, operand]) (.negation negated)
  | group {opening closing : Token} {tokens : List Token} {inner : ParseTree}
      {enclosed : Formula} (hopening : opening.ReadFrom text) (hkind₁ : opening.kind = .opening)
      (hclosing : closing.ReadFrom text) (hkind₂ : closing.kind = .closing)
      (hinner : Denotes text tokens inner enclosed) :
      Denotes text (opening :: (tokens ++ [closing]))
        (.formula [opening.leaf, inner, closing.leaf]) enclosed
  | binary {opening sign closing : Token} {op : BinaryConnective} {lefts rights : List Token}
      {left right : ParseTree} {before behind : Formula} (hopening : opening.ReadFrom text)
      (hkind₁ : opening.kind = .opening) (hsign : sign.ReadFrom text)
      (hkind₂ : sign.kind = .connective (.binary op)) (hclosing : closing.ReadFrom text)
      (hkind₃ : closing.kind = .closing) (hleft : Denotes text lefts left before)
      (hright : Denotes text rights right behind) :
      Denotes text (opening :: (lefts ++ sign :: (rights ++ [closing])))
        (.formula [opening.leaf, left, sign.leaf, right, closing.leaf])
        (.binary op before behind)

theorem Denotes.standsFor {tokens : List Token} {tree : ParseTree} {formula : Formula}
    (h : Denotes text tokens tree formula) : tree.StandsFor text formula := by
  induction h with
  | atom hletter hkind => exact ParseTree.standsFor_atom hletter hkind
  | negation hsign hkind _ ih => exact ParseTree.standsFor_negation hsign hkind ih
  | group _ _ _ _ _ ih => exact ParseTree.standsFor_group _ _ ih
  | binary _ _ hsign hkind _ _ _ _ ihl ihr =>
    exact ParseTree.standsFor_binary hsign hkind _ _ ihl ihr

theorem Derives.exists_denotes {tokens : List Token} {tree : ParseTree} (h : Derives tokens tree)
    (hread : ∀ token ∈ tokens, token.ReadFrom text) :
    ∃ formula, Denotes text tokens tree formula := by
  induction h with
  | atom hkind => exact ⟨_, .atom (List.forall_mem_singleton.1 hread) hkind⟩
  | negation hkind _ ih =>
    obtain ⟨hsign, htokens⟩ := List.forall_mem_cons.1 hread
    obtain ⟨negated, hoperand⟩ := ih htokens
    exact ⟨_, .negation hsign hkind hoperand⟩
  | group hkind₁ _ hkind₂ ih =>
    simp only [List.forall_mem_cons, List.forall_mem_append] at hread
    obtain ⟨hopening, htokens, hclosing, -⟩ := hread
    obtain ⟨enclosed, hinner⟩ := ih htokens
    exact ⟨_, .group hopening hkind₁ hclosing hkind₂ hinner⟩
  | binary hkind₁ _ hkind₂ _ hkind₃ ihl ihr =>
    simp only [List.forall_mem_cons, List.forall_mem_append] at hread
    obtain ⟨hopening, hlefts, hsign, hrights, hclosing, -⟩ := hread
    obtain ⟨before, hleft⟩ := ihl hlefts
    obtain ⟨behind, hright⟩ := ihr hrights
    exact ⟨_, .binary hopening hkind₁ hsign hkind₂ hclosing hkind₃ hleft hright⟩

/-- The formula of a derivation is the one that it denotes. -/
theorem Derives.denotes {tokens : List Token} {tree : ParseTree} {formula : Formula}
    (h : Derives tokens tree) (hread : ∀ token ∈ tokens, token.ReadFrom text)
    (hformula : tree.StandsFor text formula) : Denotes text tokens tree formula := by
  obtain ⟨denoted, hdenotes⟩ := h.exists_denotes hread
  rwa [hformula.unique hdenotes.standsFor]

end Propositional
