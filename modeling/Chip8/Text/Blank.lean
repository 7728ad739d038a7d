/-!
# Blanks

The characters that leave a place empty.  Numbers may have blanks around them, and gaps separate the
words of a line; a gap is a blank or one of the four controls that separate records.
-/

namespace Chip8.Text

/-- Blanks: the five controls from tab to carriage return, the space, and the spaces beyond the basic
characters. -/
def isBlank (c : Char) : Bool :=
  let n := c.toNat
  (0x9 ≤ n && n ≤ 0xD) || n == 0x20 || n == 0x85 || n == 0xA0 || n == 0x1680 ||
    (0x2000 ≤ n && n ≤ 0x200A) || n == 0x2028 || n == 0x2029 || n == 0x202F || n == 0x205F ||
    n == 0x3000

/-- Characters that separate words. -/
def isGap (c : Char) : Bool := isBlank c || (0x1C ≤ c.toNat && c.toNat ≤ 0x1F)

end Chip8.Text
