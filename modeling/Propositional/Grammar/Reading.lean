import Propositional.Grammar.PartialTree
import Propositional.Grammar.Rejection
import Propositional.Token.Scan

/-!
# Reading a formula

`ParseTree.ofText` reads a text lexeme by lexeme and stops at the first place
where it cannot be a formula any more. So of a misplaced token and an illegal
character the one that comes first is reported, and nothing behind it matters.
The bottom-up automaton of the grammar comes to the same results
(`Automaton.runs_iff`).
-/

namespace Propositional

/-- Continues a partial tree with the lexemes that follow. -/
def PartialTree.read : PartialTree → List Lexeme → Except Rejection ParseTree
  | built, [] =>
    match built.tree? with
    | some tree => .ok tree
    | none => .error .unexpectedEnd
  | _, .error character :: _ => .error (.illegal character)
  | built, .ok token :: rest =>
    match built.advance? token with
    | some next => next.read rest
    | none => .error (.unexpected token)

/-- The derivation tree of a sequence of lexemes. -/
def ParseTree.ofLexemes (found : List Lexeme) : Except Rejection ParseTree :=
  PartialTree.start.read found

/-- The derivation tree of a text, whose leaves are positions in it. -/
def ParseTree.ofText (text : String) : Except Rejection ParseTree :=
  ofLexemes (lexemes text)

end Propositional
