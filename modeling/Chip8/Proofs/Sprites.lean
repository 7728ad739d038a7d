import Chip8.Screen

/-!
# Sprites, pixel by pixel

A sprite is drawn row by row, each of them by one exclusive or with a mask.  `spritePixel` says which
pixels of the whole screen a sprite covers, and the lemmas here say what drawing it does to a pixel, to
the draw flag, and when it erases something.

A mask does for the eight pixels of a row at once what `xorPixel` does for one of them: to flip them one
after the other, `Screen.flipBits`, is to draw the row (`flipBits_eight`).

A sprite of at most 32 rows goes around the screen less than once, so no two of its rows meet.
-/

namespace Chip8.Screen

theorem pixel_blank (x y : Nat) : blank.pixel x y = false := by
  unfold pixel row blank
  split <;> simp

theorem pixel_clear (s : Screen) (x y : Nat) : s.clear.pixel x y = false := by
  rw [clear_eq]
  exact pixel_blank x y

/-- Whether a sprite whose corner is in column `x` of row `y` covers a pixel: around the edges its rows
and columns are counted on from the corner. -/
def spritePixel (x y : Nat) (sprite : List Byte) (column row : Nat) : Bool :=
  (sprite.getD ((row + 32 - y % 32) % 32) 0).getMsbD ((column + 64 - x % 64) % 64)

theorem getMsbD_zero {width : Nat} (k : Nat) : (0 : BitVec width).getMsbD k = false := by simp

theorem ne_zero_iff {width : Nat} (bits : BitVec width) :
    bits ≠ 0 ↔ ∃ k < width, bits.getMsbD k = true := by
  constructor
  · intro some
    apply Classical.byContradiction
    intro none
    refine some (BitVec.eq_of_getMsbD_eq fun k inside => ?_)
    rw [getMsbD_zero, ← Bool.not_eq_true]
    exact fun set => none ⟨k, inside, set⟩
  · rintro ⟨k, -, set⟩ rfl
    rw [getMsbD_zero] at set
    cases set

/-- The first row of a sprite lies where its corner is, and the others belong to the sprite that begins
one row further down. -/
theorem spritePixel_cons (x y : Nat) (bits : Byte) (rest : List Byte) {column row : Nat}
    (below : row < 32) :
    spritePixel x y (bits :: rest) column row =
      if row = y % 32 then bits.getMsbD ((column + 64 - x % 64) % 64)
      else spritePixel x (y + 1) rest column row := by
  unfold spritePixel
  by_cases corner : row = y % 32
  · rw [if_pos corner, corner, show (y % 32 + 32 - y % 32) % 32 = 0 by omega]
    rfl
  · have next : (row + 32 - y % 32) % 32 = (row + 32 - (y + 1) % 32) % 32 + 1 := by omega
    rw [if_neg corner, next]
    rfl

/-- Below its corner a sprite does not come back to the row above. -/
theorem spritePixel_above (x y : Nat) (rest : List Byte) (column : Nat) (fits : rest.length < 32) :
    spritePixel x (y + 1) rest column (y % 32) = false := by
  have last : (y % 32 + 32 - (y + 1) % 32) % 32 = 31 := by omega
  have behind : rest.getD 31 0 = 0 := by
    rw [List.getD_eq_getElem?_getD, List.getElem?_eq_none (by omega)]
    rfl
  unfold spritePixel
  rw [last, behind]
  exact getMsbD_zero _

/-- A sprite that ends before the edges covers pixels to the right of its corner and below it. -/
theorem spritePixel_of_inside {x y column row : Nat} {sprite : List Byte} (right : x + 8 ≤ 64)
    (bottom : y + sprite.length ≤ 32) (inside : column < 64) (below : row < 32) :
    spritePixel x y sprite column row = true ↔
      x ≤ column ∧ y ≤ row ∧ (sprite.getD (row - y) 0).getMsbD (column - x) = true := by
  unfold spritePixel
  by_cases above : row < y
  · have last : sprite.getD ((row + 32 - y % 32) % 32) 0 = 0 := by
      rw [List.getD_eq_getElem?_getD, List.getElem?_eq_none (by omega)]
      rfl
    rw [last, getMsbD_zero]
    exact iff_of_false Bool.false_ne_true fun both => by omega
  · have rows : (row + 32 - y % 32) % 32 = row - y := by omega
    rw [rows]
    by_cases left : column < x
    · have beyond : 8 ≤ (column + 64 - x % 64) % 64 := by omega
      rw [BitVec.getMsbD_of_ge _ _ beyond]
      exact iff_of_false Bool.false_ne_true fun both => by omega
    · have columns : (column + 64 - x % 64) % 64 = column - x := by omega
      rw [columns]
      exact ⟨fun lit => ⟨by omega, by omega, lit⟩, fun both => both.2.2⟩

/-! ### One row -/

theorem xorRow_zero (s : Screen) (y : Nat) : s.xorRow y 0 = s := by
  unfold xorRow
  congr 1
  apply Vector.ext
  intro k inside
  rw [Vector.getElem_setIfInBounds]
  split
  · next here =>
    subst here
    simp [row, inside]
  · rfl

theorem row_drawRow (s : Screen) (x y query : Nat) (bits : Byte) :
    (s.drawRow x y bits).2.row query =
      if y % 32 = query then s.row query ^^^ spriteMask x bits else s.row query := by
  have flipped := s.row_xorRow (y % 32) query (spriteMask x bits)
  show (s.xorRow (y % 32) (spriteMask x bits)).row query = _
  rw [flipped]
  by_cases here : y % 32 = query
  · rw [if_pos ⟨here, by omega⟩, if_pos here]
  · rw [if_neg fun both => here both.1, if_neg here]

theorem pixel_drawRow (s : Screen) (x y : Nat) (bits : Byte) {column : Nat} (inside : column < 64)
    (row : Nat) :
    (s.drawRow x y bits).2.pixel column row =
      (s.pixel column row ^^ (decide (row = y % 32) && bits.getMsbD ((column + 64 - x % 64) % 64))) := by
  unfold pixel
  rw [row_drawRow]
  by_cases here : y % 32 = row
  · rw [if_pos here, BitVec.getMsbD_xor, getMsbD_spriteMask x column bits inside,
      decide_eq_true here.symm, Bool.true_and]
  · rw [if_neg here, decide_eq_false (fun same => here same.symm), Bool.false_and, Bool.xor_false]

/-- A row erases something if it covers a pixel that is lit. -/
theorem drawRow_erases_iff (s : Screen) (x y : Nat) (bits : Byte) :
    (s.drawRow x y bits).1 = true ↔ ∃ column < 64,
      s.pixel column (y % 32) = true ∧ bits.getMsbD ((column + 64 - x % 64) % 64) = true := by
  show (s.row (y % 32) &&& spriteMask x bits != 0) = true ↔ _
  rw [bne_iff_ne, ne_zero_iff]
  refine exists_congr fun column => and_congr_right fun inside => ?_
  rw [BitVec.getMsbD_and, getMsbD_spriteMask x column bits inside, Bool.and_eq_true]
  rfl

theorem drawRow_zero (s : Screen) (x y : Nat) : s.drawRow x y 0 = (false, s) := by
  have mask : spriteMask x 0 = 0 := by
    refine BitVec.eq_of_getMsbD_eq fun column inside => ?_
    rw [getMsbD_spriteMask x column 0 inside, getMsbD_zero, getMsbD_zero]
  rw [drawRow, mask, xorRow_zero]
  simp

/-! ### Pixel by pixel -/

theorem getMsbD_columnMask {x column : Nat} (inside : column < 64) (onScreen : x < 64) :
    (columnMask x).getMsbD column = decide (column = x) := by
  unfold columnMask
  rw [BitVec.getMsbD_ushiftRight, BitVec.getMsbD_shiftLeft, decide_eq_true inside, Bool.true_and]
  have last (k : Nat) : (1#64).getMsbD k = decide (k = 63) := by
    rw [BitVec.getMsbD]
    by_cases h : k < 64
    · rw [BitVec.getLsbD_one]
      simp [h]
      omega
    · simp [h]
      omega
  rw [last]
  by_cases here : column = x
  · subst here
    simp
  · rw [decide_eq_false here]
    simp
    omega

/-- What is flipped twice in a row is flipped by both masks at once. -/
theorem xorRow_xorRow (s : Screen) (y : Nat) (mask mask' : PixelRow) :
    (s.xorRow y mask).xorRow y mask' = s.xorRow y (mask ^^^ mask') := by
  by_cases inside : y < 32
  · simp [xorRow, row, inside, BitVec.xor_assoc]
  · simp [xorRow, Vector.setIfInBounds_eq_of_size_le (Nat.le_of_not_lt inside)]

/-- The upper `k` bits of a byte, and zeros below. -/
def upperBits (k : Nat) (bits : Byte) : Byte := bits &&& ~~~(0xFF#8 >>> k)

/-- The upper bits are those of the byte, with nothing behind them. -/
theorem getMsbD_upperBits (k : Nat) (bits : Byte) (i : Nat) :
    (upperBits k bits).getMsbD i = (decide (i < k) && bits.getMsbD i) := by
  unfold upperBits
  rw [BitVec.getMsbD_and, BitVec.getMsbD_not, BitVec.getMsbD_ushiftRight]
  by_cases byte : i < 8
  · have full : ∀ j < 8, (0xFF#8).getMsbD j = true := by decide
    by_cases upper : i < k
    · simp [byte, upper]
    · simp [byte, upper, full (i - k) (by omega)]
  · rw [BitVec.getMsbD_of_ge _ _ (by omega), Bool.false_and, Bool.and_false]

/-- Flips the pixels of a sprite row one after the other, each bit where it falls, around the right edge.  A
change raises the flag, and it is remembered whether a pixel was erased. -/
def flipBits (s : Screen) (x y : Nat) (bits : Byte) : (count : Nat) → Except Fault (Bool × Screen)
  | 0 => .ok (false, s)
  | count + 1 => do
    let (erased, s) ← s.flipBits x y bits count
    let bit := (bits >>> (7 - count) &&& 1).toNat
    let (flip, s) ← s.xorPixel ((x + count) % 64 : Nat) (y % 32 : Nat) bit
    return (erased || flip.erased, { s with drawFlag := s.drawFlag || flip.changed })

/-- The bit that is shifted out is the one at the place from the left. -/
theorem bit_eq : ∀ bits : Byte, ∀ k < 8,
    (((bits >>> (7 - k) &&& 1).toNat : Int) % 2 == 1) = bits.getMsbD k := by
  decide +kernel

/-- A pixel of the screen is flipped by a mask of one column. -/
theorem xorPixel_of_inside (s : Screen) {x y : Nat} (inside : x < 64) (below : y < 32) (bit : Int) :
    s.xorPixel x y bit = .ok (⟨bit % 2 == 1, s.pixel x y && bit % 2 == 1⟩,
      s.xorRow y (if bit % 2 == 1 then columnMask x else 0)) := by
  have place : checkPlace x y = .ok () := by
    unfold checkPlace screenWidth screenHeight
    rw [if_neg (by omega), if_neg (by omega)]
  rw [xorPixel, place]
  rfl

/-- One more bit of a sprite row. -/
theorem spriteMask_upperBits (x : Nat) (bits : Byte) {k : Nat} (more : k < 8) :
    spriteMask x (upperBits (k + 1) bits) =
      spriteMask x (upperBits k bits) ^^^ if bits.getMsbD k then columnMask ((x + k) % 64) else 0 := by
  refine BitVec.eq_of_getMsbD_eq fun column inside => ?_
  have place : (if bits.getMsbD k then columnMask ((x + k) % 64) else 0).getMsbD column =
      (decide (column = (x + k) % 64) && bits.getMsbD k) := by
    cases bits.getMsbD k
    · simp
    · simp [getMsbD_columnMask inside (show (x + k) % 64 < 64 by omega)]
  rw [BitVec.getMsbD_xor, getMsbD_spriteMask x column _ inside, getMsbD_spriteMask x column _ inside,
    getMsbD_upperBits, getMsbD_upperBits, place]
  -- The column of the new bit is the only one for which the two differ.
  by_cases here : column = (x + k) % 64
  · have same : (column + 64 - x % 64) % 64 = k := by omega
    rw [same, decide_eq_true here]
    simp
  · have other : (column + 64 - x % 64) % 64 ≠ k := by omega
    have order : ((column + 64 - x % 64) % 64 < k + 1) ↔ (column + 64 - x % 64) % 64 < k := by omega
    simp [here, order]

/-- One bit more can only make the upper bits other than zero. -/
theorem upperBits_ne_zero_succ (bits : Byte) {k : Nat} (more : k < 8) :
    (upperBits (k + 1) bits != 0) = (upperBits k bits != 0 || bits.getMsbD k) := by
  rw [Bool.eq_iff_iff, Bool.or_eq_true, bne_iff_ne, bne_iff_ne, ne_zero_iff, ne_zero_iff]
  simp only [getMsbD_upperBits, Bool.and_eq_true, decide_eq_true_eq]
  constructor
  · rintro ⟨i, byte, upper, set⟩
    rcases Nat.lt_succ_iff_lt_or_eq.mp upper with less | rfl
    · exact .inl ⟨i, byte, less, set⟩
    · exact .inr set
  · rintro (⟨i, byte, upper, set⟩ | set)
    · exact ⟨i, byte, by omega, set⟩
    · exact ⟨k, more, by omega, set⟩

/-- One bit more erases a pixel if it is set and the pixel is lit. -/
theorem drawRow_erases_succ (s : Screen) (x y : Nat) (bits : Byte) {k : Nat} (more : k < 8) :
    (s.drawRow x y (upperBits (k + 1) bits)).1 =
      ((s.drawRow x y (upperBits k bits)).1 ||
        (s.pixel ((x + k) % 64) (y % 32) && bits.getMsbD k)) := by
  rw [Bool.eq_iff_iff, Bool.or_eq_true, Bool.and_eq_true, drawRow_erases_iff, drawRow_erases_iff]
  simp only [getMsbD_upperBits, Bool.and_eq_true, decide_eq_true_eq]
  constructor
  · rintro ⟨column, inside, lit, upper, set⟩
    rcases Nat.lt_succ_iff_lt_or_eq.mp upper with less | last
    · exact .inl ⟨column, inside, lit, less, set⟩
    · rw [last] at set
      rw [show (x + k) % 64 = column by omega]
      exact .inr ⟨lit, set⟩
  · rintro (⟨column, inside, lit, upper, set⟩ | ⟨lit, set⟩)
    · exact ⟨column, inside, lit, by omega, set⟩
    · have place : ((x + k) % 64 + 64 - x % 64) % 64 = k := by omega
      refine ⟨(x + k) % 64, by omega, lit, ?_⟩
      rw [place]
      exact ⟨by omega, set⟩

/-- After some of the bits the screen is as if the sprite row had no others. -/
theorem flipBits_eq (s : Screen) (x y : Nat) (bits : Byte) {count : Nat} (byte : count ≤ 8) :
    s.flipBits x y bits count = .ok (s.drawRow x y (upperBits count bits)) := by
  induction count with
  | zero =>
    have none : upperBits 0 bits = 0 := by
      refine BitVec.eq_of_getMsbD_eq fun i inside => ?_
      rw [getMsbD_upperBits, getMsbD_zero]
      rfl
    rw [none, drawRow_zero]
    rfl
  | succ k ih =>
    have more : k < 8 := by omega
    have lit : (s.drawRow x y (upperBits k bits)).2.pixel ((x + k) % 64) (y % 32) =
        s.pixel ((x + k) % 64) (y % 32) := by
      rw [pixel_drawRow s x y _ (by omega), getMsbD_upperBits,
        show ((x + k) % 64 + 64 - x % 64) % 64 = k by omega]
      simp
    have flipped := (s.drawRow x y (upperBits k bits)).2.xorPixel_of_inside
      (x := (x + k) % 64) (y := y % 32) (by omega) (by omega) (bits >>> (7 - k) &&& 1).toNat
    rw [bit_eq bits k more, lit] at flipped
    rw [flipBits, ih (by omega)]
    dsimp only [bind, Except.bind]
    rw [flipped]
    refine congrArg Except.ok (Prod.ext (s.drawRow_erases_succ x y bits more).symm ?_)
    show _ = ({ s.xorRow (y % 32) (spriteMask x (upperBits (k + 1) bits)) with
      drawFlag := s.drawFlag || upperBits (k + 1) bits != 0 } : Screen)
    rw [upperBits_ne_zero_succ bits more, spriteMask_upperBits x bits more, ← xorRow_xorRow, ← Bool.or_assoc]
    rfl

/-- Flipping the eight pixels of a sprite row one by one, with the flag and the news of an erased pixel
collected on the way, is drawing the row. -/
theorem flipBits_eight (s : Screen) (x y : Nat) (bits : Byte) :
    s.flipBits x y bits 8 = .ok (s.drawRow x y bits) := by
  have all : upperBits 8 bits = bits := by
    refine BitVec.eq_of_getMsbD_eq fun i inside => ?_
    rw [getMsbD_upperBits, decide_eq_true inside, Bool.true_and]
  rw [flipBits_eq s x y bits (Nat.le_refl 8), all]

/-! ### Whole sprites -/

/-- A sprite is drawn row by row, each one below the other. -/
theorem drawSprite_cons (s : Screen) (x y : Nat) (bits : Byte) (rest : List Byte) :
    s.drawSprite x y (bits :: rest) =
      ((s.drawRow x y bits).1 || ((s.drawRow x y bits).2.drawSprite x (y + 1) rest).1,
        ((s.drawRow x y bits).2.drawSprite x (y + 1) rest).2) := rfl

/-- Drawing a sprite flips the pixels that it covers. -/
theorem pixel_drawSprite (s : Screen) (x y : Nat) (sprite : List Byte) (fits : sprite.length ≤ 32)
    {column row : Nat} (inside : column < 64) (below : row < 32) :
    (s.drawSprite x y sprite).2.pixel column row =
      (s.pixel column row ^^ spritePixel x y sprite column row) := by
  induction sprite generalizing s y with
  | nil =>
    have nothing : spritePixel x y [] column row = false := getMsbD_zero _
    rw [nothing, Bool.xor_false]
    rfl
  | cons bits rest ih =>
    rw [List.length_cons] at fits
    rw [drawSprite_cons, ih _ _ (by omega), pixel_drawRow s x y bits inside,
      spritePixel_cons x y bits rest below]
    by_cases corner : row = y % 32
    · rw [if_pos corner, decide_eq_true corner, Bool.true_and, corner,
        spritePixel_above x y rest column (by omega), Bool.xor_false]
    · rw [if_neg corner, decide_eq_false corner, Bool.false_and, Bool.xor_false]

/-- Drawing a sprite erases something if it covers a pixel that is lit. -/
theorem drawSprite_erases_iff (s : Screen) (x y : Nat) (sprite : List Byte)
    (fits : sprite.length ≤ 32) :
    (s.drawSprite x y sprite).1 = true ↔ ∃ column < 64, ∃ row < 32,
      s.pixel column row = true ∧ spritePixel x y sprite column row = true := by
  induction sprite generalizing s y with
  | nil =>
    have nothing (column row : Nat) : spritePixel x y [] column row = false := getMsbD_zero _
    simp [drawSprite, nothing]
  | cons bits rest ih =>
    rw [List.length_cons] at fits
    have corner : y % 32 < 32 := by omega
    rw [drawSprite_cons, Bool.or_eq_true, ih _ _ (by omega), drawRow_erases_iff]
    constructor
    · rintro (⟨column, inside, lit, covered⟩ | ⟨column, inside, row, below, lit, covered⟩)
      · refine ⟨column, inside, y % 32, corner, lit, ?_⟩
        rw [spritePixel_cons x y bits rest corner, if_pos rfl]
        exact covered
      · -- What the rest covers lies in other rows, which the first row has left as they were.
        have other : row ≠ y % 32 := by
          rintro rfl
          rw [spritePixel_above x y rest column (by omega)] at covered
          cases covered
        refine ⟨column, inside, row, below, ?_, ?_⟩
        · rwa [pixel_drawRow s x y bits inside, decide_eq_false other, Bool.false_and,
            Bool.xor_false] at lit
        · rw [spritePixel_cons x y bits rest below, if_neg other]
          exact covered
    · rintro ⟨column, inside, row, below, lit, covered⟩
      rw [spritePixel_cons x y bits rest below] at covered
      by_cases here : row = y % 32
      · rw [if_pos here] at covered
        exact .inl ⟨column, inside, here ▸ lit, covered⟩
      · rw [if_neg here] at covered
        refine .inr ⟨column, inside, row, below, ?_, covered⟩
        rw [pixel_drawRow s x y bits inside, decide_eq_false here, Bool.false_and, Bool.xor_false]
        exact lit

/-- A set bit in a sprite raises the flag. -/
theorem drawFlag_drawSprite (s : Screen) (x y : Nat) (sprite : List Byte) :
    (s.drawSprite x y sprite).2.drawFlag = (s.drawFlag || sprite.any (· != 0)) := by
  induction sprite generalizing s y with
  | nil => exact (Bool.or_false _).symm
  | cons bits rest ih =>
    rw [drawSprite_cons, ih, List.any_cons, ← Bool.or_assoc]
    rfl

/-- A sprite without a set bit leaves the screen as it is. -/
theorem drawSprite_of_zero (s : Screen) (x y : Nat) {sprite : List Byte}
    (empty : sprite.any (· != 0) = false) : (s.drawSprite x y sprite).2 = s := by
  induction sprite generalizing s y with
  | nil => rfl
  | cons bits rest ih =>
    rw [List.any_cons, Bool.or_eq_false_iff] at empty
    obtain ⟨dark, empty⟩ := empty
    have zero : bits = 0 := by simpa using dark
    rw [drawSprite_cons, zero, drawRow_zero, ih s (y + 1) empty]

end Chip8.Screen
