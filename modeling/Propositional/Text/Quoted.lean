import Propositional.Text.Printable

/-!
# Quoted text

Messages show a text between quotation marks, on one line and with every
character visible. Single marks are used unless the text holds a single mark
and no double one. The mark in use and the backslash are escaped, tab, line
feed and carriage return have letters of their own, and any other character
that is not printable is written by its code point in two, four or eight
hexadecimal digits, whichever is the first to hold it.
-/

namespace Propositional.Text

/-- The mark around a quotation when nothing speaks against it. -/
def singleMark : Char := '\x27'

/-- The mark around a quotation that holds single marks but no double one. -/
def doubleMark : Char := '\x22'

/-- What introduces an escape. -/
def backslash : Char := '\x5c'

/-- The mark that a quotation of these characters uses. -/
def markFor (chars : List Char) : Char :=
  if chars.contains singleMark && !chars.contains doubleMark then doubleMark else singleMark

/-- The last `width` hexadecimal digits of a number, most significant first. -/
def hexDigits : (width : Nat) → (n : Nat) → List Char
  | 0, _ => []
  | width + 1, n => Nat.digitChar (n / Nat.pow 16 width % 16) :: hexDigits width n

/-- The escape that names a character by its code point. -/
def codeEscape (c : Char) : List Char :=
  if c.toNat ≤ 0xff then backslash :: 'x' :: hexDigits 2 c.toNat
  else if c.toNat ≤ 0xffff then backslash :: 'u' :: hexDigits 4 c.toNat
  else backslash :: 'U' :: hexDigits 8 c.toNat

/-- One character as it stands between the given marks. -/
def escaped (mark c : Char) : List Char :=
  if c = mark ∨ c = backslash then [backslash, c]
  else if c = '\t' then [backslash, 't']
  else if c = '\n' then [backslash, 'n']
  else if c = '\r' then [backslash, 'r']
  else if isPrintable c then [c]
  else codeEscape c

/-- A text between quotation marks. -/
def quoted (text : String) : String :=
  let mark := markFor text.toList
  String.ofList (mark :: text.toList.flatMap (escaped mark) ++ [mark])

end Propositional.Text
