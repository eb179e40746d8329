import Propositional.Text.CodeRange

/-!
# Blank characters

The characters that a reader of formulas drops before anything else: those of
Unicode 14 whose bidirectional class is a separator or white space, or whose
category is a space separator. The zero-width space U+200B and the byte order
mark U+FEFF are not among them.
-/

namespace Propositional.Text

/-- The blank code points, ascending. -/
def blankRanges : List CodeRange :=
  [⟨0x9, 0xd, 1⟩, ⟨0x1c, 0x20, 1⟩, ⟨0x85, 0x85, 1⟩, ⟨0xa0, 0xa0, 1⟩, ⟨0x1680, 0x1680, 1⟩,
   ⟨0x2000, 0x200a, 1⟩, ⟨0x2028, 0x2029, 1⟩, ⟨0x202f, 0x202f, 1⟩, ⟨0x205f, 0x205f, 1⟩,
   ⟨0x3000, 0x3000, 1⟩]

/-- Whether a character is blank. -/
def isBlank (c : Char) : Bool := covers blankRanges c

end Propositional.Text
