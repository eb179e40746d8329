/-!
# Faults

Everything that can go wrong while a formula is read, built or wired together
is reported as a `Fault`: the category of the failure, a message, and for some
categories one piece of detail. The categories form a tree. A caller that
catches a category also catches everything below it.

> `ancestors_eq_parent`: the categories above one are its parent and those
> above the parent, nearest first.
-/

namespace Propositional

/-- The kinds of failure. The first four group the others: all failures,
formulas outside the grammar, parse trees of the wrong shape, and illegal links
between nodes. -/
inductive Fault.Category
  | any
  | grammar
  | logic
  | configuration
  | invalidTree
  | noLeaf
  | emptySubstring
  | invalidCharacter
  | childCount
  | noChildrenAllowed
  | childrenComplete
  | parentFixed
deriving DecidableEq

/-- What a failure carries besides its message. -/
inductive Fault.Detail
  | plain
  /-- The text that was refused as a character. -/
  | character (text : String)
  /-- The number of children that was refused. -/
  | count (value : Int)
  /-- The message of the failure that caused this one. -/
  | cause (message : String)
deriving DecidableEq

/-- A reported failure. -/
structure Fault where
  category : Fault.Category
  message : String
  detail : Fault.Detail
deriving DecidableEq

namespace Fault

namespace Category

/-- All categories, each before those below it. -/
def all : List Category :=
  [any, grammar, logic, configuration, invalidTree, noLeaf, emptySubstring, invalidCharacter,
    childCount, noChildrenAllowed, childrenComplete, parentFixed]

/-- The name under which failures of the category are reported. -/
def name : Category → String
  | any => "ParseError"
  | grammar => "GrammarParseError"
  | logic => "LogicParsingError"
  | configuration => "NodeConfigurationError"
  | invalidTree => "InvalidSyntaxTreeError"
  | noLeaf => "NoLeafFoundError"
  | emptySubstring => "EmptySubstringError"
  | invalidCharacter => "InvalidCharacterError"
  | childCount => "UnsupportedChildCountError"
  | noChildrenAllowed => "InvalidChildrenTypeError"
  | childrenComplete => "AllChildrenAlreadyConfiguredError"
  | parentFixed => "ParentAlreadyConfiguredError"

/-- The category of a given name. -/
def ofName? (text : String) : Option Category :=
  all.find? (·.name == text)

/-- The category directly above. -/
def parent? : Category → Option Category
  | any => none
  | grammar | logic | configuration => some any
  | invalidTree | noLeaf | emptySubstring | invalidCharacter | childCount => some logic
  | noChildrenAllowed | childrenComplete | parentFixed => some configuration

/-- The categories above, nearest first. -/
def ancestors : Category → List Category
  | any => []
  | grammar | logic | configuration => [any]
  | invalidTree | noLeaf | emptySubstring | invalidCharacter | childCount => [logic, any]
  | noChildrenAllowed | childrenComplete | parentFixed => [configuration, any]

theorem ancestors_eq_parent (c : Category) :
    c.ancestors = match c.parent? with
      | none => []
      | some p => p :: p.ancestors := by
  cases c <;> rfl

end Category

/-- A failure that carries nothing besides its message. -/
def plain (category : Category) (message : String) : Fault :=
  ⟨category, message, .plain⟩

/-- A refused character. An empty reason leaves the general message. -/
def invalidCharacter (text reason : String) : Fault :=
  ⟨.invalidCharacter,
    if reason = "" then "Encountered an invalid character '" ++ text ++ "'" else reason,
    .character text⟩

/-- A refused number of children. -/
def childCount (count : Int) : Fault :=
  ⟨.childCount,
    "Syntax tree node has " ++ toString count ++ " children; expected one of 1, 2, 3 or 5",
    .count count⟩

end Fault

end Propositional
