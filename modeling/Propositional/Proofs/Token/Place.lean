import Propositional.Token.Scan

/-!
# The places of a text

`lexemesFrom` reads a text character by character. Here the same lexemes are
seen from the positions: a *place* is a character that is not ignored together
with its position, and every place becomes one lexeme, in order.

> `lexemesFrom_eq_map`: the lexemes are those of the places.
> `lexemesFrom_eq_map_ok_iff`: a text is made of tokens alone exactly when each
> of its characters is ignored or one of the characters of `IsTokenCharacter`.
> `exists_of_lexemesFrom_eq`: a lexeme in the middle of others splits the text
> at its own character.
-/

namespace Propositional

/-- The characters that formulas are written with: the ASCII letters, the five
connectives and the two parentheses. -/
def IsTokenCharacter (c : Char) : Prop :=
  c.isAlpha = true ∨ c ∈ ['¬', '∧', '∨', '→', '↔', '(', ')']

/-- The characters that are not ignored, each with its position, from left to
right; the first character of the text has the position `index`. -/
def placesFrom (index : Nat) (chars : List Char) : List (Char × Nat) :=
  (chars.zipIdx index).filter fun place => !isIgnorable place.1

/-- The places of a whole text. -/
def places (text : String) : List (Char × Nat) := placesFrom 0 text.toList

/-- The tokens at the places of a text, those without a token left out. -/
def tokensFrom (line : Int) (index : Nat) (chars : List Char) : List Token :=
  (placesFrom index chars).filterMap fun place =>
    (Token.Kind.ofChar? place.1).map fun kind => ⟨kind, place.2, line⟩

/-- The tokens of a whole text, read as line one. -/
def tokensOf (text : String) : List Token := tokensFrom 1 0 text.toList

theorem Connective.isSome_ofChar?_iff {c : Char} :
    (Connective.ofChar? c).isSome = true ↔ c ∈ ['¬', '∧', '∨', '→', '↔'] := by
  constructor
  · intro h
    obtain ⟨found, hfound⟩ := Option.isSome_iff_exists.1 h
    rw [Connective.ofChar?_eq_some_iff] at hfound
    subst hfound
    cases found with
    | negation => decide
    | binary op => cases op <;> decide
  · intro h
    simp only [List.mem_cons, List.not_mem_nil, or_false] at h
    rcases h with rfl | rfl | rfl | rfl | rfl <;> rfl

theorem Token.Kind.isSome_ofChar?_iff {c : Char} :
    (Token.Kind.ofChar? c).isSome = true ↔ IsTokenCharacter c := by
  unfold Token.Kind.ofChar? IsTokenCharacter
  split
  next hc => simp [hc]
  next hopening =>
    split
    next hc => simp [hc]
    next hclosing =>
      split
      next halpha => simp [halpha]
      next halpha =>
        rw [Option.isSome_map, Connective.isSome_ofChar?_iff]
        simp [halpha, hopening, hclosing]

theorem ne_of_isAlpha {c other : Char} (hc : c.isAlpha = true) (hother : other.isAlpha = false) :
    c ≠ other := by
  intro heq
  rw [heq, hother] at hc
  cases hc

/-- None of the characters that formulas are written with is ignored. -/
theorem isIgnorable_eq_false {c : Char} (h : IsTokenCharacter c) : isIgnorable c = false := by
  rcases h with halpha | hmem
  · have hne : ∀ other : Char, other.isAlpha = false → c ≠ other := fun _ => ne_of_isAlpha halpha
    simp [isIgnorable, hne ' ' rfl, hne '\t' rfl, hne '\r' rfl, hne '\n' rfl]
  · simp only [List.mem_cons, List.not_mem_nil, or_false] at hmem
    rcases hmem with rfl | rfl | rfl | rfl | rfl | rfl | rfl <;> rfl

/-! ## Positions of a text -/

theorem pairwise_zipIdx (index : Nat) (chars : List Char) :
    (chars.zipIdx index).Pairwise fun a b => a.2 < b.2 := by
  rw [← List.pairwise_map, List.zipIdx_map_snd]
  exact List.pairwise_lt_range'

theorem getElem?_append_cons_length (before after : List Char) (c : Char) :
    (before ++ c :: after)[before.length]? = some c := by
  rw [List.getElem?_append_right (Nat.le_refl _), Nat.sub_self, List.getElem?_cons_zero]

/-- A text is split at any of its positions. -/
theorem exists_append_cons_of_getElem? {chars : List Char} {i : Nat} {c : Char}
    (h : chars[i]? = some c) :
    ∃ before after, chars = before ++ c :: after ∧ before.length = i := by
  obtain ⟨hlt, hchar⟩ := List.getElem?_eq_some_iff.1 h
  refine ⟨chars.take i, chars.drop (i + 1), ?_, List.length_take_of_le (Nat.le_of_lt hlt)⟩
  rw [← hchar, List.getElem_cons_drop, List.take_append_drop]

/-! ## Lexemes and tokens by places -/

theorem placesFrom_cons (index : Nat) (c : Char) (rest : List Char) :
    placesFrom index (c :: rest) =
      if isIgnorable c then placesFrom (index + 1) rest
      else (c, index) :: placesFrom (index + 1) rest := by
  unfold placesFrom
  rw [List.zipIdx_cons, List.filter_cons]
  cases isIgnorable c <;> rfl

/-- The lexemes of a text are those of its places. -/
theorem lexemesFrom_eq_map (line : Int) (index : Nat) (chars : List Char) :
    lexemesFrom line index chars =
      (placesFrom index chars).map fun place => Lexeme.ofChar line place.2 place.1 := by
  induction chars generalizing index with
  | nil => rfl
  | cons c rest ih =>
    rw [lexemesFrom, placesFrom_cons, ih]
    split <;> rfl

/-- A text is made of tokens alone when every character is ignored or one that
formulas are written with; they are then the tokens at its places. -/
theorem lexemesFrom_eq_map_ok_iff {line : Int} {index : Nat} {chars : List Char}
    {tokens : List Token} :
    lexemesFrom line index chars = tokens.map .ok ↔
      (∀ c ∈ chars, isIgnorable c = true ∨ IsTokenCharacter c) ∧
        tokens = tokensFrom line index chars := by
  induction chars generalizing index tokens with
  | nil => cases tokens <;> simp [lexemesFrom, tokensFrom, placesFrom]
  | cons c rest ih =>
    rw [lexemesFrom, tokensFrom, placesFrom_cons, List.forall_mem_cons]
    cases hignored : isIgnorable c with
    | true => simpa [tokensFrom] using ih
    | false =>
      rw [← Token.Kind.isSome_ofChar?_iff]
      cases hkind : Token.Kind.ofChar? c with
      -- an illegal character is neither a token nor one of those allowed
      | none => cases tokens <;> simp [Lexeme.ofChar, hkind]
      | some kind =>
        cases tokens with
        | nil => simp [hkind]
        | cons token tokens =>
          simp only [Bool.false_eq_true, if_false, Lexeme.ofChar, hkind, List.map_cons,
            List.cons.injEq, Except.ok.injEq, ih, List.filterMap_cons, Option.map_some]
          constructor
          · intro h
            obtain ⟨rfl, hrest, rfl⟩ := h
            exact ⟨⟨.inr rfl, hrest⟩, rfl, rfl⟩
          · intro h
            obtain ⟨⟨-, hrest⟩, rfl, rfl⟩ := h
            exact ⟨rfl, hrest, rfl⟩

/-- Where all characters are ignored or belong to formulas, there is a token at
every place. What can be told of the tokens can then be told of the places. -/
theorem map_tokensFrom {γ : Type} {line : Int} {index : Nat} {chars : List Char}
    {g : Token → γ} {f : Char × Nat → γ}
    (h : ∀ c ∈ chars, isIgnorable c = true ∨ IsTokenCharacter c)
    (hg : ∀ place ∈ placesFrom index chars, ∀ kind, g ⟨kind, place.2, line⟩ = f place) :
    (tokensFrom line index chars).map g = (placesFrom index chars).map f := by
  induction chars generalizing index with
  | nil => rfl
  | cons c rest ih =>
    obtain ⟨hc, hrest⟩ := List.forall_mem_cons.1 h
    rw [tokensFrom, placesFrom_cons] at *
    cases hignored : isIgnorable c with
    | true =>
      rw [hignored, if_pos rfl] at hg
      exact ih hrest hg
    | false =>
      rw [hignored, if_neg Bool.false_ne_true, List.forall_mem_cons] at hg
      have hchar : IsTokenCharacter c := by
        rcases hc with hignorable | hchar
        · rw [hignored] at hignorable
          cases hignorable
        · exact hchar
      obtain ⟨kind, hkind⟩ := Option.isSome_iff_exists.1 (Token.Kind.isSome_ofChar?_iff.2 hchar)
      rw [if_neg Bool.false_ne_true, List.filterMap_cons, hkind, Option.map_some, List.map_cons,
        List.map_cons, hg.1 kind]
      exact congrArg (f (c, index) :: ·) (ih hrest hg.2)

/-- A character that is not ignored has a lexeme between those of the characters
before and behind it. -/
theorem lexemesFrom_append_cons (line : Int) (index : Nat) (before after : List Char) {c : Char}
    (hc : isIgnorable c = false) :
    lexemesFrom line index (before ++ c :: after) =
      lexemesFrom line index before ++ Lexeme.ofChar line (index + before.length) c ::
        lexemesFrom line (index + before.length + 1) after := by
  rw [lexemesFrom_append, lexemesFrom, hc, if_neg Bool.false_ne_true]

/-- A lexeme that stands among others splits the text at its character. -/
theorem exists_of_lexemesFrom_eq {line : Int} {index : Nat} {chars : List Char}
    {front back : List Lexeme} {found : Lexeme}
    (h : lexemesFrom line index chars = front ++ found :: back) :
    ∃ before c after, chars = before ++ c :: after ∧ isIgnorable c = false ∧
      found = Lexeme.ofChar line (index + before.length) c ∧
      lexemesFrom line index before = front := by
  induction chars generalizing index front with
  | nil => cases front <;> cases h
  | cons first rest ih =>
    rw [lexemesFrom] at h
    cases hignored : isIgnorable first with
    | true =>
      rw [hignored, if_pos rfl] at h
      obtain ⟨before, c, after, rfl, hc, hfound, hfront⟩ := ih h
      refine ⟨first :: before, c, after, rfl, hc, ?_, ?_⟩
      · rw [hfound, List.length_cons, Nat.add_right_comm, Nat.add_assoc]
      · rw [lexemesFrom, hignored, if_pos rfl, hfront]
    | false =>
      rw [hignored, if_neg Bool.false_ne_true] at h
      cases front with
      | nil =>
        obtain ⟨hfound, -⟩ := List.cons.inj h
        exact ⟨[], first, rest, rfl, hignored, hfound.symm, rfl⟩
      | cons head front =>
        obtain ⟨hhead, htail⟩ := List.cons.inj h
        obtain ⟨before, c, after, rfl, hc, hfound, hfront⟩ := ih htail
        refine ⟨first :: before, c, after, rfl, hc, ?_, ?_⟩
        · rw [hfound, List.length_cons, Nat.add_right_comm, Nat.add_assoc]
        · rw [lexemesFrom, hignored, if_neg Bool.false_ne_true, hfront, hhead]

end Propositional
