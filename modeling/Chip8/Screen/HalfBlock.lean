import Chip8.Screen

/-!
# The screen in half blocks

A character cell of a terminal is about twice as high as wide, so one character shows two pixels, one
above the other.  32 rows of pixels become 16 lines of 64 characters.
-/

namespace Chip8

/-- The character for two pixels, one above the other. -/
def halfBlock (upper lower : Bool) : Char :=
  match upper, lower with
  | true, true => '█'
  | true, false => '▀'
  | false, true => '▄'
  | false, false => ' '

namespace Screen

/-- Line `r` of the picture, which shows the pixel rows `2 * r` and `2 * r + 1`. -/
def halfBlockLine (s : Screen) (r : Nat) : List Char :=
  (List.range 64).map fun x => halfBlock (s.pixel x (2 * r)) (s.pixel x (2 * r + 1))

/-- The sixteen lines of the picture. -/
def halfBlocks (s : Screen) : List String :=
  (List.range 16).map fun r => String.ofList (s.halfBlockLine r)

/-- The picture as one text, without a line end after the last line. -/
def picture (s : Screen) : String := "\n".intercalate s.halfBlocks

end Screen

end Chip8
