import Propositional.Grammar.Derivation
import Propositional.Grammar.Rejection
import Propositional.Token.Scan

/-!
# The bottom-up automaton of the grammar

The machine that parser generators build from a grammar: the LALR(1) automaton
of the seven productions. It works on a stack of symbols, each with the state
that was entered on it. A turn puts the next token on the stack (*shift*), or
replaces the right side of a production on top of the stack by a `formula`
(*reduce*), or ends the run. A production is reduced only when the next token is
one that may follow a formula, so a misplaced token ends the run where it is
first seen.

A state is named for what stands on top of the stack in it, for this decides
where in a production the reader can be.
-/

namespace Propositional.Automaton

/-- The states. Those of the productions for the four binary connectives come in
four copies. -/
inductive State
  /-- Nothing has been read. -/
  | start
  /-- A formula is all there is. -/
  | whole
  /-- A letter. -/
  | letter
  /-- A negation sign. -/
  | negating
  /-- A negation sign and a formula. -/
  | negated
  /-- An opening parenthesis. -/
  | opened
  /-- An opening parenthesis and a formula. -/
  | enclosed
  /-- The same with a closing parenthesis. -/
  | grouped
  /-- An opening parenthesis, a formula and a binary connective. -/
  | joined (op : BinaryConnective)
  /-- The same with a second formula. -/
  | paired (op : BinaryConnective)
  /-- The same with a closing parenthesis. -/
  | bound (op : BinaryConnective)
deriving DecidableEq

namespace State

/-- The state that is entered on a token where a formula begins. -/
def begin? : Token.Kind → Option State
  | .atom => some letter
  | .connective .negation => some negating
  | .opening => some opened
  | .connective (.binary _) | .closing => none

/-- The state that is entered when a token is shifted. -/
def shift? : State → Token.Kind → Option State
  | start, kind | negating, kind | opened, kind | joined _, kind => begin? kind
  | enclosed, .closing => some grouped
  | enclosed, .connective (.binary op) => some (joined op)
  | paired op, .closing => some (bound op)
  | _, _ => none

/-- The state that is entered when a formula has been reduced in this one. -/
def goto? : State → Option State
  | start => some whole
  | negating => some negated
  | opened => some enclosed
  | joined op => some (paired op)
  | _ => none

/-- The length of the right side that is complete in a state. -/
def width? : State → Option Nat
  | letter => some 1
  | negated => some 2
  | grouped => some 3
  | bound _ => some 5
  | _ => none

end State

/-- What may follow a formula; the end of the tokens is `none`. -/
def mayFollow : Option Token.Kind → Bool
  | none => true
  | some .closing => true
  | some (.connective (.binary _)) => true
  | some .atom | some .opening | some (.connective .negation) => false

/-- What the automaton does next. -/
inductive Action
  | shift (next : State)
  | reduce (width : Nat)
  | accept

/-- The entry of the table for a state and the next token. -/
def State.action? (state : State) (ahead : Option Token.Kind) : Option Action :=
  match state.width? with
  | some width => if mayFollow ahead then some (.reduce width) else none
  | none =>
    match ahead with
    | some kind => (state.shift? kind).map .shift
    | none => if state = .whole then some .accept else none

/-- The symbols that have been read, the last one first, each with the state that
was entered on it and its tree. -/
abbrev Stack := List (State × ParseTree)

namespace Stack

/-- The state that was entered last. -/
def state : Stack → State
  | [] => .start
  | (state, _) :: _ => state

/-- Puts a formula on the stack, if one may stand there. -/
def push? (stack : Stack) (tree : ParseTree) : Option Stack :=
  stack.state.goto?.map fun state => (state, tree) :: stack

/-- Replaces the right side of a production by its formula. -/
def reduce? (stack : Stack) (width : Nat) : Option Stack :=
  push? (stack.drop width) (.formula ((stack.take width).map Prod.snd).reverse)

end Stack

/-- What a turn leads to: further turns, or the end of the run. -/
inductive Turn
  | next (stack : Stack) (rest : List Lexeme)
  | done (result : Except Rejection ParseTree)
  | stuck

/-- A turn that reduces and leaves the next token where it is. -/
def reducing (stack : Stack) (width : Nat) (found : List Lexeme) : Turn :=
  match stack.reduce? width with
  | some reduced => .next reduced found
  | none => .stuck

/-- One turn. An illegal character ends the run as soon as it is the next one. -/
def turn (stack : Stack) : List Lexeme → Turn
  | [] =>
    match stack.state.action? none, stack with
    | none, _ => .done (.error .unexpectedEnd)
    | some (.reduce width), _ => reducing stack width []
    | some .accept, (_, tree) :: _ => .done (.ok tree)
    | _, _ => .stuck
  | .error character :: _ => .done (.error (.illegal character))
  | .ok token :: rest =>
    match stack.state.action? (some token.kind) with
    | none => .done (.error (.unexpected token))
    | some (.shift next) => .next ((next, token.leaf) :: stack) rest
    | some (.reduce width) => reducing stack width (.ok token :: rest)
    | some .accept => .stuck

/-- Turn after turn, the automaton comes to this result. -/
inductive Runs : Stack → List Lexeme → Except Rejection ParseTree → Prop
  | done {stack : Stack} {found : List Lexeme} {result : Except Rejection ParseTree}
      (hturn : turn stack found = .done result) : Runs stack found result
  | next {stack stack' : Stack} {found found' : List Lexeme}
      {result : Except Rejection ParseTree} (hturn : turn stack found = .next stack' found')
      (hruns : Runs stack' found' result) : Runs stack found result

end Propositional.Automaton
