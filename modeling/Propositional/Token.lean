import Propositional.Connective
import Propositional.Span

/-!
# Tokens

A formula is written with ASCII letters, connectives and parentheses, one
character each. A token names the sort of character it stands for and where it
stands, not the character itself: the text is consulted again when an atom or a
connective has to be told apart.
-/

namespace Propositional

/-- The sorts of token. -/
inductive Token.Kind
  | atom
  | connective (c : Connective)
  | opening
  | closing
deriving DecidableEq

namespace Token.Kind

/-- The name of a sort of token in messages. -/
def name : Kind → String
  | atom => "ATOM"
  | connective .negation => "NOT"
  | connective (.binary .conjunction) => "AND"
  | connective (.binary .disjunction) => "OR"
  | connective (.binary .conditional) => "IMPLIES"
  | connective (.binary .biconditional) => "IFF"
  | opening => "LPAREN"
  | closing => "RPAREN"

/-- The sort of token that a character is, if it is one. -/
def ofChar? (c : Char) : Option Kind :=
  if c = '(' then some opening
  else if c = ')' then some closing
  else if c.isAlpha then some atom
  else (Connective.ofChar? c).map connective

end Token.Kind

/-- A character of a text that is part of a formula: its sort, its position,
and the line number under which it was read. -/
structure Token where
  kind : Token.Kind
  index : Nat
  line : Int
deriving DecidableEq

namespace Token

/-- The position behind the token. -/
def stop (token : Token) : Nat := token.index + 1

/-- The range of the text that the token covers. -/
def span (token : Token) : Span := .single token.index

end Token

/-- A character that is neither part of a formula nor skipped. -/
structure IllegalCharacter where
  character : Char
  position : Nat
deriving DecidableEq

/-- The message that names the character and its position. -/
def IllegalCharacter.message (illegal : IllegalCharacter) : String :=
  "Illegal character '" ++ illegal.character.toString ++ "' encountered at position " ++
    toString illegal.position

/-- Whether a character may stand anywhere between tokens. Only four of the
blank characters may, and a line feed does not advance the line number. -/
def isIgnorable (c : Char) : Bool :=
  c = ' ' || c = '\t' || c = '\r' || c = '\n'

end Propositional
