import Propositional.Proofs.Grammar.Offence

/-!
# Where a formula ends

The reader knows when a formula is complete: no production is open any more, and the next
token would belong to nothing. So a text with a derivation cannot be cut short by a token
and still be a formula, nor can a token be added to it. What is ignored plays no part in
either.

> `advanceAll?_front`: in front of its last token a formula is not complete.
> `lexemesFrom_eq_nil_iff`, `lexemesFrom_of_head?`: what the reader meets behind a text.
> `derive_cut_or_continued`: what becomes of a text with a derivation when a part of it is
> cut off or something is added.
-/

namespace Propositional

/-! ## What stands behind a text -/

theorem placesFrom_eq_map (index : Nat) (chars : List Char) :
    placesFrom index chars = (placesFrom 0 chars).map fun place => (place.1, index + place.2) := by
  induction chars generalizing index with
  | nil => rfl
  | cons c rest ih =>
    rw [placesFrom_cons, placesFrom_cons, ih (index + 1), ih (0 + 1)]
    split
    · simp [Nat.add_assoc]
    · simp [Nat.add_assoc]

/-- A text without places is read as nothing. -/
theorem lexemesFrom_eq_nil_iff {index : Nat} {text : String} :
    lexemesFrom 1 index text.toList = [] ↔ places text = [] := by
  rw [lexemesFrom_eq_map, placesFrom_eq_map, List.map_map, List.map_eq_nil_iff, places]

/-- The first place of a text is the first that is read. -/
theorem lexemesFrom_of_head? {index : Nat} {text : String} {c : Char} {j : Nat}
    (h : (places text).head? = some (c, j)) :
    ∃ rest, lexemesFrom 1 index text.toList = Lexeme.ofChar 1 (index + j) c :: rest := by
  obtain ⟨behind, hplaces⟩ := List.head?_eq_some_iff.1 h
  rw [places] at hplaces
  rw [lexemesFrom_eq_map, placesFrom_eq_map, hplaces]
  exact ⟨_, rfl⟩

/-- The lexemes of two texts, one behind the other. -/
theorem lexemes_append (front back : String) :
    lexemes (front ++ back) = lexemes front ++ lexemesFrom 1 front.length back.toList := by
  rw [lexemes, String.toList_append, lexemesFrom_append, Nat.zero_add, String.length_toList]
  rfl

/-! ## The end of a formula -/

/-- In front of its last token a formula is not complete. -/
theorem advanceAll?_front {front back : List Token} {tree : ParseTree}
    (h : Derives (front ++ back) tree) (hback : back ≠ []) :
    ∃ next, PartialTree.start.advanceAll? front = some next ∧ next.tree? = none := by
  have hwhole := PartialTree.derives_iff_advanceAll?.1 h
  rw [PartialTree.advanceAll?_append] at hwhole
  obtain ⟨next, hnext, -⟩ := Option.bind_eq_some_iff.1 hwhole
  refine ⟨next, hnext, ?_⟩
  cases next with
  | complete part =>
    -- nothing could be added to a complete tree
    have hpart : Derives front part := PartialTree.derives_iff_advanceAll?.2 hnext
    exact absurd (hpart.eq_nil_of_append h) hback
  | _ => rfl

/-- A complete tree has no room for any lexeme. -/
theorem PartialTree.exists_refuses_complete (tree : ParseTree) (lexeme : Lexeme) :
    ∃ rejection, (complete tree).Refuses lexeme rejection := by
  cases lexeme with
  | error character => exact ⟨_, .illegal⟩
  | ok token => exact ⟨_, .unexpected rfl⟩

/-- **Where a formula ends.** Take a text that has a derivation. Each beginning of it that
lacks one of its tokens ends too early, and this is what is reported. Behind the whole text
nothing matters that is ignored. Anything else there is rejected at its first character
that is not ignored, by the position that this has behind the text. -/
theorem derive_cut_or_continued {text : String} {tree : ParseTree}
    (h : (derive text).outcome = .ok tree) :
    (∀ front back : String, text = front ++ back → places back ≠ [] →
      ∃ rejection, (derive front).outcome = .error rejection ∧
        rejection.fault = .plain .grammar "Syntax error: Unexpected end of formula") ∧
    (∀ more : String, places more = [] → (derive (text ++ more)).outcome = .ok tree) ∧
    ∀ (more : String) (c : Char) (j : Nat), (places more).head? = some (c, j) →
      ∃ rejection, (derive (text ++ more)).outcome = .error rejection ∧
        rejection.Reports c (text.length + j) := by
  rw [outcome_derive, ParseTree.ofText, ParseTree.ofLexemes_eq_ok_iff] at h
  obtain ⟨tokens, htokens, htree⟩ := h
  have hcomplete := PartialTree.derives_iff_advanceAll?.1 htree
  simp only [outcome_derive, ParseTree.ofText]
  refine ⟨?_, ?_, ?_⟩
  · rintro front back rfl hback
    rw [lexemes_append] at htokens
    obtain ⟨before, behind, rfl, hbefore, hbehind⟩ := List.map_eq_append_iff.1 htokens.symm
    have hne : behind ≠ [] := by
      rintro rfl
      exact hback (lexemesFrom_eq_nil_iff.1 hbehind.symm)
    obtain ⟨next, hnext, hopen⟩ := advanceAll?_front htree hne
    exact ⟨.unexpectedEnd, PartialTree.read_eq_error_iff.2
      (.inr ⟨before, next, hbefore.symm, hnext, hopen, rfl⟩), rfl⟩
  · intro more hmore
    rw [lexemes_append, lexemesFrom_eq_nil_iff.2 hmore, List.append_nil]
    exact ParseTree.ofLexemes_eq_ok_iff.2 ⟨tokens, htokens, htree⟩
  · intro more c j hmore
    obtain ⟨rest, hrest⟩ := lexemesFrom_of_head? hmore
    obtain ⟨rejection, hrefuses⟩ :=
      PartialTree.exists_refuses_complete tree (Lexeme.ofChar 1 (text.length + j) c)
    refine ⟨rejection, PartialTree.read_eq_error_iff.2 (.inl ?_), hrefuses.reports⟩
    exact ⟨tokens, _, rest, _, by rw [lexemes_append, htokens, hrest], hcomplete, hrefuses⟩

/-- Without its last parenthesis `(p )` ends too early, with a blank behind it nothing
changes, and a digit behind that is found at its place. -/
theorem derive_letter_cut_or_continued :
    ∃ tree, (derive "(p )").outcome = .ok tree ∧
      (∃ rejection, (derive "(p ").outcome = .error rejection ∧
        rejection.fault = .plain .grammar "Syntax error: Unexpected end of formula") ∧
      (derive ("(p )" ++ " ")).outcome = .ok tree ∧
      ∃ rejection, (derive ("(p )" ++ " 1")).outcome = .error rejection ∧
        rejection.Reports '1' 5 := by
  have hok : (derive "(p )").outcome = .ok (.formula
      [.leaf (.single 0), .formula [.leaf (.single 1)], .leaf (.single 3)]) := rfl
  obtain ⟨hcut, hignored, hmore⟩ := derive_cut_or_continued hok
  exact ⟨_, hok, hcut "(p " ")" rfl (by decide), hignored " " rfl, hmore " 1" '1' 1 rfl⟩

end Propositional
