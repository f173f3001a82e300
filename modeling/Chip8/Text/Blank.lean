/-!
# Blanks around numerals

The characters that may surround a numeral: the six blanks of ASCII and the
spaces and separators of Unicode beyond it.  The four information separators
of ASCII are not among them.
-/

namespace Chip8.Text

/-- Whether a character may stand around a numeral. -/
def isBlank (character : Char) : Bool :=
  let code := character.toNat
  code = 0x20 ∨ (0x09 ≤ code ∧ code ≤ 0x0D) ∨ code = 0x85 ∨ code = 0xA0 ∨
    code = 0x1680 ∨ (0x2000 ≤ code ∧ code ≤ 0x200A) ∨ code = 0x2028 ∨
    code = 0x2029 ∨ code = 0x202F ∨ code = 0x205F ∨ code = 0x3000

/-- A text without the blanks at both ends. -/
def strip (text : List Char) : List Char :=
  ((text.dropWhile isBlank).reverse.dropWhile isBlank).reverse

end Chip8.Text
