import Chip8.Word

/-!
# The built-in demonstration

A program that draws the sixteen glyphs of the font in two lines of eight and then jumps in place.
-/

namespace Chip8.Demo

/-- The program, from its start at `0x200` on. -/
def glyphs : List Byte :=
  [0x00, 0xE0,  -- 200: clear the screen
   0x60, 0x00,  -- 202: V0 = 0, the digit
   0x61, 0x01,  -- 204: V1 = 1, the column
   0x62, 0x02,  -- 206: V2 = 2, the row
   0xF0, 0x29,  -- 208: point at the glyph of V0
   0xD1, 0x25,  -- 20A: draw it
   0x70, 0x01,  -- 20C: next digit
   0x71, 0x08,  -- 20E: next column
   0x30, 0x08,  -- 210: after eight digits
   0x12, 0x18,
   0x61, 0x01,  -- 214: back to the first column
   0x62, 0x0A,  -- 216: of the second line
   0x30, 0x10,  -- 218: after sixteen digits
   0x12, 0x08,
   0x12, 0x1C]  -- 21C: stay here

end Chip8.Demo
