import Propositional.Proofs.Token.Place

/-!
# The character of a token

A token carries its kind and its place, and the text has to be consulted for the
character itself. The tokens that were read from a text can be trusted there:
their place holds a character of their kind.

> `ofChar?_eq_some_iff`: which characters are tokens of a kind.
> `Lexeme.ofChar_eq_ok_iff`: what a character is read as.
> `readFrom_of_mem_tokensFrom`: the tokens of a text were read from it.
> `map_character_tokensFrom`: the characters of the tokens are the characters of
> the text, less the ignored ones.
-/

namespace Propositional

/-- The character is a way to write a token of this kind. -/
def Token.Kind.WrittenAs : Token.Kind → Char → Prop
  | atom, c => c.isAlpha = true
  | connective found, c => c = found.symbol
  | opening, c => c = '('
  | closing, c => c = ')'

/-- A character is a token of the one kind that it is a way to write. -/
theorem Token.Kind.ofChar?_eq_some_iff {c : Char} {kind : Token.Kind} :
    Token.Kind.ofChar? c = some kind ↔ kind.WrittenAs c := by
  constructor
  · intro h
    unfold ofChar? at h
    split at h
    next hc => cases h; exact hc
    next =>
      split at h
      next hc => cases h; exact hc
      next =>
        split at h
        next halpha => cases h; exact halpha
        next =>
          obtain ⟨found, hfound, rfl⟩ := Option.map_eq_some_iff.1 h
          exact Connective.ofChar?_eq_some_iff.1 hfound
  · intro h
    cases kind with
    | atom =>
      have hc : c.isAlpha = true := h
      have hopening : c ≠ '(' := ne_of_isAlpha hc rfl
      have hclosing : c ≠ ')' := ne_of_isAlpha hc rfl
      rw [ofChar?, if_neg hopening, if_neg hclosing, if_pos hc]
    | connective found =>
      cases h
      cases found with
      | negation => rfl
      | binary op => cases op <;> rfl
    | opening => cases h; rfl
    | closing => cases h; rfl

theorem Token.Kind.WrittenAs.unique {kind other : Token.Kind} {c : Char} (h : kind.WrittenAs c)
    (hother : other.WrittenAs c) : kind = other :=
  Option.some.inj ((Token.Kind.ofChar?_eq_some_iff.2 h).symm.trans
    (Token.Kind.ofChar?_eq_some_iff.2 hother))

theorem Token.Kind.WrittenAs.isTokenCharacter {kind : Token.Kind} {c : Char}
    (h : kind.WrittenAs c) : IsTokenCharacter c := by
  rw [← Token.Kind.isSome_ofChar?_iff, Token.Kind.ofChar?_eq_some_iff.2 h]
  rfl

/-- A character is read as a token of the kind that it writes, at its own place. -/
theorem Lexeme.ofChar_eq_ok_iff {line : Int} {index : Nat} {c : Char} {token : Token} :
    Lexeme.ofChar line index c = .ok token ↔
      token.kind.WrittenAs c ∧ token.index = index ∧ token.line = line := by
  rw [← Token.Kind.ofChar?_eq_some_iff, Lexeme.ofChar]
  constructor
  · intro h
    split at h
    next kind hkind =>
      cases h
      exact ⟨hkind, rfl, rfl⟩
    next => cases h
  · intro h
    obtain ⟨hkind, rfl, rfl⟩ := h
    rw [hkind]

/-- The character of the text at the place of a token. -/
def Token.character (text : List Char) (token : Token) : Char := text.getD token.index ' '

/-- The place of the token lies in the text and holds a character of its kind. -/
def Token.ReadFrom (text : List Char) (token : Token) : Prop :=
  token.index < text.length ∧ token.kind.WrittenAs (token.character text)

theorem Token.ReadFrom.writtenAs {text : List Char} {token : Token} {kind : Token.Kind}
    (h : token.ReadFrom text) (hkind : token.kind = kind) :
    kind.WrittenAs (token.character text) :=
  hkind ▸ h.2

theorem Token.ReadFrom.kind_eq {text : List Char} {token : Token} {kind : Token.Kind}
    (h : token.ReadFrom text) (hkind : kind.WrittenAs (token.character text)) :
    token.kind = kind :=
  h.2.unique hkind

theorem Token.ReadFrom.getElem? {text : List Char} {token : Token} (h : token.ReadFrom text) :
    text[token.index]? = some (token.character text) := by
  rw [character, List.getD_eq_getElem?_getD, List.getElem?_eq_getElem h.1, Option.getD_some]

theorem getElem?_of_mem_placesFrom {text : List Char} {place : Char × Nat}
    (h : place ∈ placesFrom 0 text) : text[place.2]? = some place.1 :=
  List.mem_zipIdx_iff_getElem?.1 (List.mem_filter.1 h).1

theorem character_of_mem_placesFrom {text : List Char} {place : Char × Nat}
    (h : place ∈ placesFrom 0 text) (kind : Token.Kind) (line : Int) :
    Token.character text ⟨kind, place.2, line⟩ = place.1 := by
  rw [Token.character, List.getD_eq_getElem?_getD, getElem?_of_mem_placesFrom h, Option.getD_some]

/-- The tokens of a text were read from it. -/
theorem readFrom_of_mem_tokensFrom {line : Int} {text : List Char} {token : Token}
    (h : token ∈ tokensFrom line 0 text) : token.ReadFrom text := by
  obtain ⟨place, hplace, hmap⟩ := List.mem_filterMap.1 h
  obtain ⟨kind, hkind, rfl⟩ := Option.map_eq_some_iff.1 hmap
  refine ⟨(List.getElem?_eq_some_iff.1 (getElem?_of_mem_placesFrom hplace)).1, ?_⟩
  rw [character_of_mem_placesFrom hplace]
  exact Token.Kind.ofChar?_eq_some_iff.1 hkind

theorem map_fst_placesFrom (index : Nat) (chars : List Char) :
    (placesFrom index chars).map Prod.fst = chars.filter fun c => !isIgnorable c := by
  induction chars generalizing index with
  | nil => rfl
  | cons c rest ih =>
    rw [placesFrom_cons, List.filter_cons]
    cases isIgnorable c with
    | true => exact ih (index + 1)
    | false => exact congrArg (c :: ·) (ih (index + 1))

/-- The characters of the tokens are those of the text that are not ignored. -/
theorem map_character_tokensFrom {line : Int} {text : List Char}
    (h : ∀ c ∈ text, isIgnorable c = true ∨ IsTokenCharacter c) :
    (tokensFrom line 0 text).map (Token.character text) =
      text.filter fun c => !isIgnorable c := by
  rw [← map_fst_placesFrom 0 text]
  exact map_tokensFrom h fun place hplace kind => character_of_mem_placesFrom hplace kind line

end Propositional
