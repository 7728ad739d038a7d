import Chip8.Terminal.Panel

/-!
# Consoles

A console prints texts and panels, line by line.  How a panel appears on it is for the console to say; what
the emulator prints is told by the panels and texts that it hands over.
-/

namespace Chip8

/-- Where texts and panels are printed. -/
structure Console where
  /-- The number of cells in a line. -/
  width : Nat
  /-- The lines in which a panel appears. -/
  panel : Panel → List String

namespace Console

/-- A console without colours, of the given width. -/
def plain (width : Nat) : Console := ⟨width, fun p => p.lines width⟩

/-- A number names the plain console of that width. -/
instance (width : Nat) : OfNat Console width := ⟨plain width⟩

/-- The lines in which a text appears. -/
def text (c : Console) (t : Text.Styled) : List String := Text.wrap c.width t

end Console

end Chip8
