import Chip8.Fault

/-!
# The screen

64 columns and 32 rows of pixels that are lit or dark, and a flag that says whether a program has
drawn since the flag was last taken down.  A row is one 64-bit word whose most significant bit is
column 0, so a sprite row is drawn by one exclusive or with a mask, and the mask wraps around the
right edge by rotation (`getMsbD_spriteMask` says which columns it covers).

Two operations erase the screen: `Screen.clear` raises the flag, because a program did it, and
`Screen.reset` lowers it.
-/

namespace Chip8

/-- The number of columns. -/
def screenWidth : Nat := 64

/-- The number of rows. -/
def screenHeight : Nat := 32

/-- The pixels of a row, column 0 at the most significant bit. -/
abbrev PixelRow := BitVec 64

/-- The pixels and the draw flag. -/
structure Screen where
  /-- The rows from the top. -/
  rows : Vector PixelRow 32
  /-- Whether a program has drawn since the flag was last taken down. -/
  drawFlag : Bool
  deriving DecidableEq, Repr

namespace Screen

/-- All pixels dark, the flag down. -/
def blank : Screen := ⟨Vector.replicate 32 0, false⟩

/-- Row `y`; dark below the screen. -/
def row (s : Screen) (y : Nat) : PixelRow :=
  if h : y < 32 then s.rows[y] else 0

/-- The pixel in column `x` of row `y`; dark outside the screen. -/
def pixel (s : Screen) (x y : Nat) : Bool := (s.row y).getMsbD x

/-- Flips the pixels of row `y` that are lit in `mask`.  The flag stays as it is. -/
def xorRow (s : Screen) (y : Nat) (mask : PixelRow) : Screen :=
  { s with rows := s.rows.setIfInBounds y (s.row y ^^^ mask) }

/-- The number of lit pixels. -/
def litCount (s : Screen) : Nat :=
  (List.range (screenWidth * screenHeight)).countP fun k =>
    s.pixel (k % screenWidth) (k / screenWidth)

/-- Takes the light out of every row.  The flag stays as it is. -/
def darken (s : Screen) : Screen := { s with rows := s.rows.map fun _ => 0 }

/-- All pixels dark, the flag down. -/
def reset (s : Screen) : Screen := { s.darken with drawFlag := false }

/-- All pixels dark, the flag up. -/
def clear (s : Screen) : Screen := { s.darken with drawFlag := true }

/-- Takes the flag down; the flag as it was comes along. -/
def consume (s : Screen) : Bool × Screen := (s.drawFlag, { s with drawFlag := false })

/-! ### Dark screens -/

theorem rows_darken (s : Screen) : s.darken.rows = Vector.replicate 32 0 := by
  apply Vector.ext
  intro y h
  simp only [darken, Vector.getElem_map, Vector.getElem_replicate]

/-- Nothing is left of what was on the screen. -/
theorem reset_eq_blank (s : Screen) : s.reset = blank := by
  rw [reset, rows_darken]
  rfl

theorem clear_eq (s : Screen) : s.clear = { blank with drawFlag := true } := by
  rw [clear, rows_darken]
  rfl

/-! ### Single pixels -/

/-- Faults unless `(x, y)` is a place on the screen.  The column is looked at first. -/
def checkPlace (x y : Int) : Except Fault Unit :=
  if x < 0 ∨ screenWidth ≤ x then .error (.outOfRange .screenColumn x screenWidth)
  else if y < 0 ∨ screenHeight ≤ y then .error (.outOfRange .screenRow y screenHeight)
  else .ok ()

/-- The pixel at a place. -/
def getPixel (s : Screen) (x y : Int) : Except Fault Bool := do
  checkPlace x y
  return s.pixel x.toNat y.toNat

/-- The row that has only column `x` lit. -/
def columnMask (x : Nat) : PixelRow := (1#64 <<< 63) >>> x

/-- What flipping a pixel did to it. -/
structure Flip where
  /-- It was dark and is lit, or the other way round. -/
  changed : Bool
  /-- It was lit and is dark. -/
  erased : Bool
  deriving DecidableEq, Repr

/-- Flips the pixel at a place if `bit` is odd.  The flag stays as it is. -/
def xorPixel (s : Screen) (x y bit : Int) : Except Fault (Flip × Screen) := do
  checkPlace x y
  let flips := bit % 2 == 1
  let old := s.pixel x.toNat y.toNat
  let mask := if flips then columnMask x.toNat else 0
  return (⟨flips, old && flips⟩, s.xorRow y.toNat mask)

/-! ### Sprites -/

/-- The row whose lit columns are the set bits of `bits`, the most significant one in column `x`, the
others to its right, going on at the left edge. -/
def spriteMask (x : Nat) (bits : Byte) : PixelRow :=
  (bits.setWidth 64 <<< 56).rotateRight (x % 64)

/-- Draws one sprite row by exclusive or, and says whether it erased a lit pixel.  The flag goes up if
any bit is set. -/
def drawRow (s : Screen) (x y : Nat) (bits : Byte) : Bool × Screen :=
  let mask := spriteMask x bits
  -- Pixels that are lit before and in the mask are the ones that go dark.
  let s' := s.xorRow (y % 32) mask
  (s.row (y % 32) &&& mask != 0, { s' with drawFlag := s.drawFlag || bits != 0 })

/-- Draws the sprite rows one below the other from row `y` on, going on at the top edge, and says
whether they erased a lit pixel. -/
def drawSprite (s : Screen) (x y : Nat) : List Byte → Bool × Screen
  | [] => (false, s)
  | bits :: rest =>
    let (erased, s') := s.drawRow x y bits
    let (erasedBelow, s'') := s'.drawSprite x (y + 1) rest
    (erased || erasedBelow, s'')

/-! ### What a flip and a mask cover -/

theorem row_xorRow (s : Screen) (y query : Nat) (mask : PixelRow) :
    (s.xorRow y mask).row query =
      if y = query ∧ query < 32 then s.row query ^^^ mask else s.row query := by
  unfold xorRow row
  by_cases h : query < 32
  · by_cases e : y = query <;> simp [h, e]
  · simp [h]

theorem getMsbD_spriteMask (x column : Nat) (bits : Byte) (h : column < 64) :
    (spriteMask x bits).getMsbD column = bits.getMsbD ((column + 64 - x % 64) % 64) := by
  unfold spriteMask
  rw [BitVec.getMsbD_rotateRight]
  have hx : x % 64 % 64 = x % 64 := by omega
  have hlt : x % 64 < 64 := by omega
  simp only [h, decide_true, Bool.true_and, hx]
  split
  · rw [BitVec.getMsbD_shiftLeft, BitVec.getMsbD_setWidth]
    rw [show (64 + column - x % 64) % 64 + 56 + 8 - 64 = (column + 64 - x % 64) % 64 by omega]
    simp
  · rw [BitVec.getMsbD_shiftLeft, BitVec.getMsbD_setWidth]
    rw [show column - x % 64 + 56 + 8 - 64 = (column + 64 - x % 64) % 64 by omega]
    simp

end Screen

end Chip8
