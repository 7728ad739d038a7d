import Chip8.Proofs.Accesses
import Chip8.Proofs.Control
import Chip8.Proofs.Sprites

/-!
# Drawing around the edges

Where a bit of a sprite falls is said here without any mask: `Screen.Falls` counts on from the corner and
takes remainders.  Two bits of a sprite never fall on one pixel, so a pixel changes by the one bit that
falls on it, if one does, and drawing comes to an exclusive or (`Processor.draw_is_xor`).

The flag needs no more than the screens before and after.  What has been erased is what was lit and is dark.
-/

namespace Chip8

namespace Screen

/-- A bit of a sprite, the one in column `c` of row `r`, falls on a pixel if the sprite of `height` rows has
its corner in column `x` of row `y`. -/
structure Falls (x y height r c column row : Nat) : Prop where
  row_lt : r < height
  column_lt : c < 8
  column_eq : column = (x + c) % 64
  row_eq : row = (y + r) % 32

namespace Falls

variable {x y height r c r' c' column row : Nat}

/-- The way back from a pixel to the bit that falls on it. -/
theorem places (falls : Falls x y height r c column row) (fits : height ≤ 32) :
    (row + 32 - y % 32) % 32 = r ∧ (column + 64 - x % 64) % 64 = c := by
  obtain ⟨row_lt, column_lt, column_eq, row_eq⟩ := falls
  omega

/-- Two bits of one sprite do not meet. -/
theorem unique (first : Falls x y height r c column row) (second : Falls x y height r' c' column row)
    (fits : height ≤ 32) : r = r' ∧ c = c' := by
  obtain ⟨rows, columns⟩ := first.places fits
  obtain ⟨rows', columns'⟩ := second.places fits
  exact ⟨rows.symm.trans rows', columns.symm.trans columns'⟩

/-- A pixel that lies in the reach of the sprite has a bit that falls on it. -/
theorem of_places (inside : column < 64) (below : row < 32)
    (row_lt : (row + 32 - y % 32) % 32 < height) (column_lt : (column + 64 - x % 64) % 64 < 8) :
    Falls x y height ((row + 32 - y % 32) % 32) ((column + 64 - x % 64) % 64) column row :=
  ⟨row_lt, column_lt, by omega, by omega⟩

end Falls

variable {x y r c column row : Nat} {sprite : List Byte}

theorem spritePixel_of_falls (falls : Falls x y sprite.length r c column row)
    (fits : sprite.length ≤ 32) :
    spritePixel x y sprite column row = (sprite.getD r 0).getMsbD c := by
  obtain ⟨rows, columns⟩ := falls.places fits
  rw [spritePixel, rows, columns]

theorem spritePixel_of_not_falls (inside : column < 64) (below : row < 32)
    (missed : ¬ ∃ r c, Falls x y sprite.length r c column row) :
    spritePixel x y sprite column row = false := by
  unfold spritePixel
  rcases Nat.lt_or_ge ((row + 32 - y % 32) % 32) sprite.length with row_lt | beneath
  · rcases Nat.lt_or_ge ((column + 64 - x % 64) % 64) 8 with column_lt | beside
    · exact absurd ⟨_, _, .of_places inside below row_lt column_lt⟩ missed
    · exact BitVec.getMsbD_of_ge _ _ beside
  · rw [List.getD_eq_getElem?_getD, List.getElem?_eq_none beneath]
    exact getMsbD_zero _

variable (s : Screen)

/-- A pixel is flipped by the bit that falls on it. -/
theorem pixel_drawSprite_of_falls (falls : Falls x y sprite.length r c column row)
    (fits : sprite.length ≤ 32) :
    (s.drawSprite x y sprite).2.pixel column row =
      (s.pixel column row ^^ (sprite.getD r 0).getMsbD c) := by
  have inside : column < 64 := falls.column_eq ▸ Nat.mod_lt _ (by decide)
  have below : row < 32 := falls.row_eq ▸ Nat.mod_lt _ (by decide)
  rw [pixel_drawSprite s x y sprite fits inside below, spritePixel_of_falls falls fits]

theorem pixel_drawSprite_of_not_falls (inside : column < 64) (below : row < 32)
    (missed : ¬ ∃ r c, Falls x y sprite.length r c column row) (fits : sprite.length ≤ 32) :
    (s.drawSprite x y sprite).2.pixel column row = s.pixel column row := by
  rw [pixel_drawSprite s x y sprite fits inside below, spritePixel_of_not_falls inside below missed,
    Bool.xor_false]

/-- Some pixel was lit before and is dark after. -/
def Erased (before after : Screen) : Prop :=
  ∃ x < 64, ∃ y < 32, before.pixel x y = true ∧ after.pixel x y = false

instance (before after : Screen) : Decidable (before.Erased after) :=
  inferInstanceAs (Decidable (∃ x < 64, ∃ y < 32, before.pixel x y = true ∧ after.pixel x y = false))

/-- A sprite that is drawn erases what goes dark. -/
theorem erased_drawSprite_iff (fits : sprite.length ≤ 32) :
    s.Erased (s.drawSprite x y sprite).2 ↔ (s.drawSprite x y sprite).1 = true := by
  rw [drawSprite_erases_iff s x y sprite fits]
  refine exists_congr fun column => and_congr_right fun inside => exists_congr fun row =>
    and_congr_right fun below => and_congr_right fun lit => ?_
  rw [pixel_drawSprite s x y sprite fits inside below, lit, Bool.true_xor, Bool.not_eq_false']

end Screen

/-- The columns of a byte count from its high bit. -/
theorem Byte.getMsbD_of_lt (b : Byte) {c : Nat} (inside : c < 8) :
    b.getMsbD c = b.getLsbD (7 - c) := by
  rw [BitVec.getMsbD, decide_eq_true inside, Bool.true_and]

namespace Processor

open Screen (Falls)

/-- A word that draws flips the pixels on which a set bit of its sprite falls, and no others.  The flag
says whether a pixel went dark, also where it was one of the coordinates before. -/
theorem draw_is_xor (m : Machine) (sent : List Signal) {word : Word} (fetched : m.fetch = .ok word)
    (draws : word.toNat / 4096 = 0xD)
    (fits : word.toNat % 16 = 0 ∨ m.registers.i.toNat + word.toNat % 16 ≤ 4096) :
    let height := word.toNat % 16
    let x₀ := (m.v (Register.ofNat (word.toNat / 256))).toNat
    let y₀ := (m.v (Register.ofNat (word.toNat / 16))).toNat
    -- The bits of a row, the leftmost one first.
    let bit r c := (m.memory.get (m.registers.i.toNat + r)).getLsbD (7 - c)
    ∃ work, step.run ⟨m, sent⟩ = .ok word work ∧
      let after := work.machine
      (∀ x < 64, ∀ y < 32,
        (∀ r c, Falls x₀ y₀ height r c x y →
          after.screen.pixel x y = (m.screen.pixel x y ^^ bit r c) ∧
          ∀ r' c', Falls x₀ y₀ height r' c' x y → r' = r ∧ c' = c) ∧
        ((¬ ∃ r c, Falls x₀ y₀ height r c x y) → after.screen.pixel x y = m.screen.pixel x y)) ∧
      (after.v Register.flag = if m.screen.Erased after.screen then 1 else 0) ∧
      (after.screen.drawFlag = true ↔
        m.screen.drawFlag = true ∨ ∃ r < height, ∃ c < 8, bit r c = true) ∧
      after.memory = m.memory ∧ after.registers.i = m.registers.i ∧
      (∀ x, x ≠ Register.flag → after.v x = m.v x) ∧
      after.registers.pc = m.registers.pc + 2 ∧ after.registers.stack = m.registers.stack := by
  intro height x₀ y₀ bit
  let sprite := m.memory.slice m.registers.i.toNat height
  have low : height < 16 := Nat.mod_lt _ (by decide)
  have rows : sprite.length = height := Memory.length_slice _ _ _
  have short : sprite.length ≤ 32 := by omega
  have bits {r c : Nat} (row_lt : r < height) (column_lt : c < 8) :
      (sprite.getD r 0).getMsbD c = bit r c := by
    rw [Memory.getD_slice, if_pos row_lt, Byte.getMsbD_of_lt _ column_lt]
  let drawn := m.screen.drawSprite x₀ y₀ sprite
  have spells : (Instruction.drawSprite (Register.ofNat (word.toNat / 256))
      (Register.ofNat (word.toNat / 16)) ⟨height, low⟩).spells word.toNat :=
    ⟨draws, rfl, rfl, rfl⟩
  have stepped := m.step_of_execute fetched (Instruction.ofWord?_of_spells spells)
    (m.execute_drawSprite _ _ ⟨height, low⟩ fits (Prod.eta drawn).symm)
  refine ⟨_, step_run_eq_ok_iff.mpr ⟨_, stepped, rfl, rfl⟩, ?_, ?_, ?_, rfl, rfl, ?_, rfl, rfl⟩
  · intro x inside y below
    refine ⟨fun r c falls => ⟨?_, fun r' c' falls' => falls'.unique falls (by omega)⟩, fun missed => ?_⟩
    · rw [← bits falls.row_lt falls.column_lt]
      exact m.screen.pixel_drawSprite_of_falls (rows ▸ falls) short
    · exact m.screen.pixel_drawSprite_of_not_falls inside below (rows ▸ missed) short
  · have erased := m.screen.erased_drawSprite_iff (x := x₀) (y := y₀) short
    refine (m.registers.get_set_self Register.flag _).trans ?_
    exact ite_congr (propext erased.symm) (fun _ => rfl) fun _ => rfl
  · have raised := m.screen.drawFlag_drawSprite x₀ y₀ sprite
    have some : sprite.any (· != 0) = true ↔ ∃ r < height, ∃ c < 8, bit r c = true := by
      rw [Memory.any_slice]
      refine exists_congr fun r => and_congr_right fun row_lt => ?_
      rw [Screen.ne_zero_iff]
      refine exists_congr fun c => and_congr_right fun column_lt => ?_
      rw [Byte.getMsbD_of_lt _ column_lt]
    rw [← some, ← Bool.or_eq_true, ← raised]
    rfl
  · intro x other
    exact m.registers.get_setFlag drawn.1 other

/-- Three rows of the zero with both coordinates in `VF`, which is 62: they go on at the left edge and at the
top edge, and put out the pixel that is there. -/
theorem draw_is_xor_corner :
    let m := { Machine.initial (.listed [] 0) with
      memory := Memory.initial.store 0x200 [0xDF, 0xF3]
      registers := Registers.initial.set Register.flag 62
      screen := Screen.blank.xorRow 0 (Screen.columnMask 1) }
    ∃ work, step.run ⟨m, []⟩ = .ok 0xDFF3 work ∧
      work.machine.screen.pixel 62 30 = true ∧ work.machine.screen.pixel 1 0 = false ∧
      work.machine.v Register.flag = 1 ∧ work.machine.screen.drawFlag = true := by
  intro m
  have fetched : m.fetch = .ok 0xDFF3 := by
    have fine : Memory.rangeFault? m.registers.pc.toNat 2 = none ∧ m.nextWord = 0xDFF3 := by
      decide +kernel
    rw [Machine.fetch_eq, fine.1, fine.2]
  obtain ⟨work, ran, pixels, flag, raised, -⟩ :=
    draw_is_xor m [] fetched (by decide) (.inr (by decide +kernel))
  have lit : m.screen.pixel 1 0 = true := by decide +kernel
  have drawn : work.machine.screen.pixel 62 30 = true := by
    refine ((pixels 62 (by decide) 30 (by decide)).1 0 0 ⟨?_, ?_, ?_, ?_⟩).1.trans ?_ <;> decide +kernel
  have dark : work.machine.screen.pixel 1 0 = false := by
    refine ((pixels 1 (by decide) 0 (by decide)).1 2 3 ⟨?_, ?_, ?_, ?_⟩).1.trans ?_ <;> decide +kernel
  refine ⟨work, ran, drawn, dark, flag.trans (if_pos ?_), raised.mpr (.inr ?_)⟩
  · exact ⟨1, by decide, 0, by decide, lit, dark⟩
  · exact ⟨0, by decide, 0, by decide, by decide +kernel⟩

end Processor

end Chip8
