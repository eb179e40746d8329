import Propositional.Token.Scan

/-!
# Lexers

A lexer reads texts one after the other. Each reading is asked for its tokens one by one,
and may be given up before it comes to an end. While it goes on, the reading keeps its
place to itself; the lexer learns of it when the reading ends or is given up, and when a
character is met that is no token. What the lexer then says about the character, it says
about the place it remembers.

> `Lexer.tokenize`: one reading, in turns of one character.
> `Lexer.afterReadings`: what a lexer remembers after several of them.
-/

namespace Propositional

/-- What a lexer remembers: the text that it read last, and a place in it. -/
structure Lexer where
  text : String
  index : Nat
  line : Int
deriving DecidableEq

/-- A text, the line number to read it under, the position to start at, and the number of
tokens that will be asked for at most. -/
structure Lexer.Request where
  text : String
  line : Int
  index : Nat
  limit? : Option Nat
deriving DecidableEq

namespace Lexer

/-- The lexer at another place of its text. -/
def moveTo (lexer : Lexer) (line : Int) (index : Nat) : Lexer :=
  { lexer with line, index }

/-- Refuses a character at the place that the lexer remembers, and steps over it. -/
def refuse (lexer : Lexer) (c : Char) : Lexer × IllegalCharacter :=
  (lexer.moveTo lexer.line (lexer.index + 1), ⟨c, lexer.index⟩)

/-- Reads on with the characters that are left, of which the first one has the given
position, for as long as tokens are asked for. -/
def read (lexer : Lexer) (line : Int) :
    (index : Nat) → List Char → (limit? : Option Nat) → Lexer × Scan
  | index, [], _ => (lexer.moveTo line index, ⟨[], none⟩)
  | index, c :: rest, limit? =>
    -- nobody asks any more: the reading is given up where its last token ended
    if limit? = some 0 then (lexer.moveTo line index, ⟨[], none⟩)
    else if isIgnorable c then lexer.read line (index + 1) rest limit?
    else match Token.Kind.ofChar? c with
      | some kind =>
        let (left, scan) := lexer.read line (index + 1) rest (limit?.map (· - 1))
        (left, ⟨⟨kind, index, line⟩ :: scan.tokens, scan.illegal?⟩)
      | none =>
        let (left, illegal) := (lexer.moveTo line index).refuse c
        -- the reading ends here, and its own place is what remains
        (left.moveTo line index, ⟨[], some illegal⟩)

/-- Reads a text as requested. A reading that is asked for no token does not begin. -/
def tokenize (lexer : Lexer) (request : Request) : Lexer × Scan :=
  if request.limit? = some 0 then (lexer, ⟨[], none⟩)
  else
    { lexer with text := request.text }.read request.line request.index
      (request.text.toList.drop request.index) request.limit?

/-- The lexer after several readings. -/
def afterReadings (lexer : Lexer) (history : List Request) : Lexer :=
  history.foldl (fun lexer request => (lexer.tokenize request).1) lexer

end Lexer

end Propositional
