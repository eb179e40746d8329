import Propositional.Token

/-!
# Reading a text as tokens

`lexemes` reads a text to its end, character by character: what may be ignored
is dropped, and every other position becomes a token or an illegal character.
Reading is meant to be interrupted. Whoever consumes the lexemes stops at the
first illegal one, or earlier, and never learns of anything behind that place.
`Scan.ofLexemes` is the plain consumer: it collects tokens up to the first
illegal character.
-/

namespace Propositional

/-- What stands at a position that is not ignored. -/
abbrev Lexeme := Except IllegalCharacter Token

namespace Lexeme

/-- The reading of one character at a position of a given line. -/
def ofChar (line : Int) (index : Nat) (c : Char) : Lexeme :=
  match Token.Kind.ofChar? c with
  | some kind => .ok ⟨kind, index, line⟩
  | none => .error ⟨c, index⟩

/-- The position that a lexeme stands at. -/
def position : Lexeme → Nat
  | .ok token => token.index
  | .error illegal => illegal.position

end Lexeme

/-- The lexemes of a text whose first character has the given position. -/
def lexemesFrom (line : Int) : (index : Nat) → List Char → List Lexeme
  | _, [] => []
  | index, c :: rest =>
    if isIgnorable c then lexemesFrom line (index + 1) rest
    else Lexeme.ofChar line index c :: lexemesFrom line (index + 1) rest

/-- The lexemes of a whole text, read as line one. -/
def lexemes (text : String) : List Lexeme :=
  lexemesFrom 1 0 text.toList

/-- The tokens that were read, and the illegal character that ended the
reading if one did. -/
structure Scan where
  tokens : List Token
  illegal? : Option IllegalCharacter
deriving DecidableEq

namespace Scan

/-- The tokens before the first illegal character, and that character. -/
def ofLexemes : List Lexeme → Scan
  | [] => ⟨[], none⟩
  | .error illegal :: _ => ⟨[], some illegal⟩
  | .ok token :: rest =>
    let scan := ofLexemes rest
    ⟨token :: scan.tokens, scan.illegal?⟩

end Scan

/-- Reads a text from the character at `index` on, under the given line number.
With a limit, reading stops once that many tokens are there, and an illegal
character behind them goes unseen. -/
def tokenize (text : String) (line : Int) (index : Nat) (limit? : Option Nat) : Scan :=
  let found := lexemesFrom line index (text.toList.drop index)
  Scan.ofLexemes <| match limit? with
    | some limit => found.take limit
    | none => found

theorem lexemesFrom_append (line : Int) (index : Nat) (front back : List Char) :
    lexemesFrom line index (front ++ back) =
      lexemesFrom line index front ++ lexemesFrom line (index + front.length) back := by
  induction front generalizing index with
  | nil => rfl
  | cons c front ih =>
    have hlen : index + 1 + front.length = index + (c :: front).length := by
      simp only [List.length_cons]; omega
    simp only [List.cons_append, lexemesFrom, ih, hlen]
    split <;> rfl

end Propositional
