import Chip8.Proofs.Drawing

/-!
# Counting pixels

Drawing a sprite lights a pixel for every set bit, but those that fall on a lit pixel put it out instead.  So the
number of lit pixels grows by the set bits and shrinks by two for each pixel erased
(`Screen.litCount_drawSprite`).

The set bits are counted in the sprite and what they cover on the screen.  The two counts agree because a bit
and the pixel that it falls on determine each other.
-/

namespace Chip8

/-! ### Lists -/

/-- What satisfies one of two predicates but not the other, and what satisfies both. -/
theorem countP_xor_add {α : Type} (p q : α → Bool) (l : List α) :
    l.countP (fun a => p a ^^ q a) + 2 * l.countP (fun a => p a && q a) = l.countP p + l.countP q := by
  induction l with
  | nil => rfl
  | cons a rest ih =>
    simp only [List.countP_cons]
    cases p a <;> cases q a <;> simp <;> omega

section

variable {n k : Nat} {p q : Nat → Bool} (there back : Nat → Nat)

/-- A list without repetitions still has none if its numbers are sent to where they can be got back from. -/
theorem nodup_map_of_inverse {l : List Nat} (distinct : l.Nodup)
    (inverse : ∀ a ∈ l, back (there a) = a) : (l.map there).Nodup := by
  refine List.pairwise_map.mpr (distinct.imp_of_mem fun mem mem' other same => other ?_)
  rw [← inverse _ mem, same, inverse _ mem']

/-- Two predicates hold of equally many numbers if there is a way there and back. -/
theorem countP_range_eq_of_inverse
    (hthere : ∀ a < n, p a = true → there a < k ∧ q (there a) = true ∧ back (there a) = a)
    (hback : ∀ b < k, q b = true → back b < n ∧ p (back b) = true ∧ there (back b) = b) :
    (List.range n).countP p = (List.range k).countP q := by
  have onto {a : Nat} (mem : a ∈ (List.range n).filter p) :
      there a < k ∧ q (there a) = true ∧ back (there a) = a := by
    obtain ⟨inside, holds⟩ := List.mem_filter.mp mem
    exact hthere a (List.mem_range.mp inside) holds
  have same : (((List.range n).filter p).map there).Perm ((List.range k).filter q) := by
    refine (List.perm_ext_iff_of_nodup ?_ ?_).mpr fun b => ?_
    · have distinct : ((List.range n).filter p).Nodup := List.filter_sublist.nodup List.nodup_range
      exact nodup_map_of_inverse there back distinct fun a mem => (onto mem).2.2
    · exact List.filter_sublist.nodup List.nodup_range
    · rw [List.mem_filter, List.mem_range, List.mem_map]
      constructor
      · rintro ⟨a, mem, rfl⟩
        obtain ⟨below, covered, -⟩ := onto mem
        exact ⟨below, covered⟩
      · rintro ⟨below, covered⟩
        obtain ⟨inside, holds, same⟩ := hback b below covered
        exact ⟨back b, List.mem_filter.mpr ⟨List.mem_range.mpr inside, holds⟩, same⟩
  rw [List.countP_eq_length_filter, List.countP_eq_length_filter, ← same.length_eq, List.length_map]

end

namespace Screen

/-! ### Pixels and bits -/

/-- The number of places on the screen that satisfy a predicate. -/
def placeCount (p : Nat → Nat → Bool) : Nat :=
  (List.range (screenWidth * screenHeight)).countP fun k => p (k % screenWidth) (k / screenWidth)

/-- The number of pixels that were lit before and are dark after. -/
def erasedCount (before after : Screen) : Nat :=
  placeCount fun x y => before.pixel x y && !after.pixel x y

/-- The number of set bits of a sprite. -/
def setBits (sprite : List Byte) : Nat :=
  (List.range (8 * sprite.length)).countP fun k => (sprite.getD (k / 8) 0).getMsbD (k % 8)

theorem litCount_eq (s : Screen) : s.litCount = placeCount s.pixel := rfl

theorem placeCount_congr {p q : Nat → Nat → Bool} (same : ∀ x < 64, ∀ y < 32, p x y = q x y) :
    placeCount p = placeCount q := by
  unfold placeCount
  refine List.countP_congr fun k mem => ?_
  have inside : k < 64 * 32 := List.mem_range.mp mem
  rw [screenWidth, same (k % 64) (by omega) (k / 64) (by omega)]

/-- The place of the pixel on which a bit falls, with the places and the bits numbered row by row. -/
def pixelOf (x y k : Nat) : Nat := 64 * ((y + k / 8) % 32) + (x + k % 8) % 64

/-- The bit that falls on the pixel at a place. -/
def bitOf (x y k : Nat) : Nat := 8 * ((k / 64 + 32 - y % 32) % 32) + (k % 64 + 64 - x % 64) % 64

variable (x y : Nat) (sprite : List Byte)

/-- Each bit of a sprite falls on its pixel. -/
theorem falls_pixelOf {k height : Nat} (inside : k < 8 * height) :
    Falls x y height (k / 8) (k % 8) (pixelOf x y k % 64) (pixelOf x y k / 64) := by
  have column : (x + k % 8) % 64 < 64 := Nat.mod_lt _ (by decide)
  unfold pixelOf
  constructor
  case row_lt => omega
  case column_lt => omega
  case column_eq => rw [Nat.mul_add_mod, Nat.mod_eq_of_lt column]
  case row_eq => rw [Nat.mul_add_div (by decide), Nat.div_eq_of_lt column, Nat.add_zero]

/-- A pixel is covered only if a bit falls on it. -/
theorem exists_falls_of_spritePixel {column row : Nat} (inside : column < 64) (below : row < 32)
    (covered : spritePixel x y sprite column row = true) :
    ∃ r c, Falls x y sprite.length r c column row := by
  apply Classical.byContradiction
  intro missed
  rw [spritePixel_of_not_falls inside below missed] at covered
  cases covered

/-- A sprite covers as many pixels as it has set bits. -/
theorem placeCount_spritePixel (fits : sprite.length ≤ 32) :
    placeCount (spritePixel x y sprite) = setBits sprite := by
  unfold placeCount setBits screenWidth screenHeight
  refine (countP_range_eq_of_inverse (pixelOf x y) (bitOf x y) ?_ ?_).symm
  · intro k inside set
    have falls := falls_pixelOf x y inside
    obtain ⟨rows, columns⟩ := falls.places fits
    refine ⟨?_, ?_, ?_⟩
    · unfold pixelOf
      omega
    · rw [spritePixel_of_falls falls fits]
      exact set
    · rw [bitOf, rows, columns]
      omega
  · intro k inside covered
    obtain ⟨r, c, falls⟩ := exists_falls_of_spritePixel x y sprite (by omega) (by omega) covered
    obtain ⟨rows, columns⟩ := falls.places fits
    have bit : bitOf x y k = 8 * r + c := by rw [bitOf, rows, columns]
    rw [spritePixel_of_falls falls fits] at covered
    obtain ⟨row_lt, column_lt, column_eq, row_eq⟩ := falls
    have quotient : (8 * r + c) / 8 = r := by omega
    have remainder : (8 * r + c) % 8 = c := by omega
    rw [bit]
    refine ⟨by omega, ?_, ?_⟩
    · rw [quotient, remainder]
      exact covered
    · rw [pixelOf, quotient, remainder, ← row_eq, ← column_eq]
      omega

variable (s : Screen)

/-- The set bits of a sprite that is drawn light dark pixels, or erase lit ones. -/
theorem litCount_drawSprite (fits : sprite.length ≤ 32) :
    (s.drawSprite x y sprite).2.litCount + 2 * s.erasedCount (s.drawSprite x y sprite).2 =
      s.litCount + setBits sprite := by
  have lit : (s.drawSprite x y sprite).2.litCount =
      placeCount fun column row => s.pixel column row ^^ spritePixel x y sprite column row :=
    placeCount_congr fun column inside row below => s.pixel_drawSprite x y sprite fits inside below
  have erased : s.erasedCount (s.drawSprite x y sprite).2 =
      placeCount fun column row => s.pixel column row && spritePixel x y sprite column row := by
    refine placeCount_congr fun column inside row below => ?_
    rw [s.pixel_drawSprite x y sprite fits inside below]
    cases s.pixel column row <;> simp
  rw [lit, erased, litCount_eq, ← placeCount_spritePixel x y sprite fits]
  exact countP_xor_add _ _ _

end Screen

end Chip8
