import Chip8.Memory

/-!
# The font

The system area holds a picture of each hexadecimal digit: five bytes, a row each, of which the upper
four bits show.
-/

namespace Chip8

/-- The number of bytes, and of rows, of one glyph. -/
def glyphSize : Nat := 5

/-- The glyphs of the digits `0` to `F`, one after the other. -/
def font : List Byte :=
  [0xF0, 0x90, 0x90, 0x90, 0xF0,
   0x20, 0x60, 0x20, 0x20, 0x70,
   0xF0, 0x10, 0xF0, 0x80, 0xF0,
   0xF0, 0x10, 0xF0, 0x10, 0xF0,
   0x90, 0x90, 0xF0, 0x10, 0x10,
   0xF0, 0x80, 0xF0, 0x10, 0xF0,
   0xF0, 0x80, 0xF0, 0x90, 0xF0,
   0xF0, 0x10, 0x20, 0x40, 0x40,
   0xF0, 0x90, 0xF0, 0x90, 0xF0,
   0xF0, 0x90, 0xF0, 0x10, 0xF0,
   0xF0, 0x90, 0xF0, 0x90, 0x90,
   0xE0, 0x90, 0xE0, 0x90, 0xE0,
   0xF0, 0x80, 0x80, 0x80, 0xF0,
   0xE0, 0x90, 0x90, 0x90, 0xE0,
   0xF0, 0x80, 0xF0, 0x80, 0xF0,
   0xF0, 0x80, 0xF0, 0x80, 0x80]

namespace Memory

/-- Zero in every cell. -/
def zeroed : Memory := ⟨Vector.replicate 4096 0⟩

/-- Puts zero into every cell, and the font into the cells from address 0 on. -/
def reset (_ : Memory) : Memory := zeroed.store 0 font

/-- The memory after it has been switched on. -/
def initial : Memory := zeroed.reset

/-- Nothing is left of what was in the memory. -/
theorem reset_eq_initial (m : Memory) : m.reset = initial := rfl

end Memory

end Chip8
