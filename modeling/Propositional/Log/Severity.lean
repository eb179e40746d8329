/-!
# Severities and lines

Every message has a severity, a number that grows with its weight. Four
severities have names of their own and are the only ones that a channel can be
set to. A message is written as it is from the severity of general progress
upward; below that it is preceded by the name of its severity in brackets.
-/

namespace Propositional.Log

/-- The severities that messages are written with. -/
inductive Severity
  | debug
  | info
  | warning
  | error
deriving DecidableEq

namespace Severity

/-- All severities, lightest first. -/
def all : List Severity := [debug, info, warning, error]

/-- The number of a severity. -/
def value : Severity → Nat
  | debug => 10
  | info => 20
  | warning => 30
  | error => 40

/-- The name of a severity. -/
def name : Severity → String
  | debug => "DEBUG"
  | info => "INFO"
  | warning => "WARNING"
  | error => "ERROR"

/-- The severity of a given name. -/
def ofName? (text : String) : Option Severity :=
  all.find? (·.name == text)

instance : LE Severity where
  le a b := a.value ≤ b.value

instance (a b : Severity) : Decidable (a ≤ b) :=
  inferInstanceAs (Decidable (a.value ≤ b.value))

end Severity

/-- The name of any severity number: six have one, the others are numbered. -/
def levelName (level : Int) : String :=
  if level = 0 then "NOTSET"
  else if level = 10 then "DEBUG"
  else if level = 20 then "INFO"
  else if level = 30 then "WARNING"
  else if level = 40 then "ERROR"
  else if level = 50 then "CRITICAL"
  else "Level " ++ toString level

/-- The line that a message of the given severity number is written as. -/
def formatLine (level : Int) (message : String) : String :=
  if Severity.info.value ≤ level then message else "[" ++ levelName level ++ "] " ++ message

end Propositional.Log
