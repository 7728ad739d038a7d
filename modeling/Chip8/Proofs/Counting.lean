import Chip8.Demo.Counter
import Chip8.Proofs.Bounds
import Chip8.Proofs.Restarts
import Chip8.Proofs.Runs
import Chip8.Proofs.Sprites

/-!
# The decimal counter counts

The program `Demo.counter` goes round and round, sixteen steps a time.  `Running` is what holds at each of
its lines, `Stage` what holds while the digits of a round are drawn, one beside the other, and `Counted`
what holds after a round.

A round depends on what is in the memory, on the program counter and on `V3`, and on nothing else, so
`Counted` gives back what the next round needs, and `Demo.counter_counts` follows by induction on the
rounds.
-/

namespace Chip8

namespace Demo

/-! ### The lines of the program -/

/-- The instruction on a line of the counter. -/
def counterLine (line : Nat) : Option Instruction :=
  Instruction.ofWord? (Word.ofBytes (counter.getD (2 * line) 0) (counter.getD (2 * line + 1) 0))

theorem lt_of_counterLine {line : Nat} {i : Instruction} (listed : counterLine line = some i) :
    line < 16 := by
  have behind (k : Nat) (beyond : 32 ≤ k) : counter.getD k 0 = 0 := by
    rw [List.getD_eq_getElem?_getD, List.getElem?_eq_none beyond]
    rfl
  apply Nat.lt_of_not_le
  intro beyond
  unfold counterLine at listed
  rw [behind _ (by omega), behind _ (by omega)] at listed
  cases listed

/-- The counter and the font are in the memory, no call is open, and a line of the counter is due. -/
structure Running (m : Machine) (line : Nat) : Prop where
  program : ∀ offset < 32, m.memory.get (0x200 + offset) = counter.getD offset 0
  glyphs : ∀ offset < 80, m.memory.get offset = font.getD offset 0
  closed : m.registers.stack.depth = 0
  pc : m.registers.pc = BitVec.ofNat 16 (0x200 + 2 * line)

namespace Running

variable {m m' : Machine} {line : Nat} {i : Instruction} {sent : List Signal}

theorem fetch (running : Running m line) (listed : counterLine line = some i) :
    ∃ word, m.fetch = .ok word ∧ Instruction.ofWord? word = some i := by
  have inside : line < 16 := lt_of_counterLine listed
  have pc : m.registers.pc.toNat = 0x200 + 2 * line := by
    rw [running.pc, BitVec.toNat_ofNat]
    omega
  have word : m.nextWord =
      Word.ofBytes (counter.getD (2 * line) 0) (counter.getD (2 * line + 1) 0) := by
    rw [Machine.nextWord, pc, running.program _ (by omega), Nat.add_assoc,
      running.program _ (by omega)]
  refine ⟨m.nextWord, ?_, ?_⟩
  · rw [Machine.fetch_eq, (Memory.rangeFault?_eq_none_iff _ _).mpr (by omega)]
  · rw [word]
    exact listed

/-- A step that leaves the program and the font alone and goes on to the next line. -/
theorem goOn {changed : Machine} {r : Registers} (running : Running m line)
    (listed : counterLine line = some i) (executed : m.execute i = .ok (changed.goOn r, sent))
    (kept : ∀ k < 0x300, changed.memory.get k = m.memory.get k) (stack : r.stack = m.registers.stack)
    (pc : r.pc = m.registers.pc) :
    ∃ m', m.Runs 1 m' ∧ Running m' (line + 1) ∧ m'.memory = changed.memory ∧
      m'.screen = changed.screen ∧ (∀ x, m'.v x = r.get x) ∧ m'.registers.i = r.i := by
  obtain ⟨word, fetched, spelled⟩ := running.fetch listed
  refine ⟨_, .of_execute fetched spelled executed, ⟨?_, ?_, ?_, ?_⟩, rfl, rfl, fun _ => rfl, rfl⟩
  · intro k inside
    exact (kept _ (by omega)).trans (running.program k inside)
  · intro k inside
    exact (kept _ (by omega)).trans (running.glyphs k inside)
  · show r.stack.depth = 0
    rw [stack]
    exact running.closed
  · show r.pc + 2 = _
    rw [pc, running.pc]
    apply BitVec.eq_of_toNat_eq
    simp
    omega

/-- The last line goes back to the first. -/
theorem goBack (running : Running m 15) :
    ∃ m', m.Runs 1 m' ∧ Running m' 0 ∧ m'.memory = m.memory ∧ m'.screen = m.screen ∧
      (∀ x, m'.v x = m.v x) ∧ m'.registers.i = m.registers.i := by
  obtain ⟨word, fetched, spelled⟩ := running.fetch (i := .jump 0x200) rfl
  have jumps : m.execute (.jump 0x200) =
      .ok ({ m with registers := { m.registers with pc := 0x200 } }, []) := rfl
  exact ⟨_, .of_execute fetched spelled jumps,
    ⟨running.program, running.glyphs, running.closed, rfl⟩, rfl, rfl, fun _ => rfl, rfl⟩

end Running

/-! ### Glyphs -/

/-- Whether the glyph of a digit has a pixel, counted from its upper left corner. -/
def glyphPixel (digit column row : Nat) : Bool :=
  decide (row < glyphSize) && (font.getD (glyphSize * digit + row) 0).getMsbD column

/-- A digit is four pixels wide. -/
theorem lt_four_of_glyphPixel {digit column row : Nat} (lit : glyphPixel digit column row = true) :
    column < 4 := by
  have narrow : ∀ k < 80, ∀ column < 8, 4 ≤ column → (font.getD k 0).getMsbD column = false := by
    decide +kernel
  unfold glyphPixel at lit
  rw [Bool.and_eq_true] at lit
  apply Nat.lt_of_not_le
  intro wide
  rcases Nat.lt_or_ge (glyphSize * digit + row) 80 with inside | behind
  · rcases Nat.lt_or_ge column 8 with column_lt | beyond
    · rw [narrow _ inside column column_lt wide] at lit
      exact Bool.false_ne_true lit.2
    · rw [BitVec.getMsbD_of_ge _ _ beyond] at lit
      exact Bool.false_ne_true lit.2
  · rw [List.getD_eq_getElem?_getD, List.getElem?_eq_none behind] at lit
    have dark : (0 : Byte).getMsbD column = false := Screen.getMsbD_zero column
    exact Bool.false_ne_true (dark.symm.trans lit.2)

/-- Whether a digit has a pixel at a place of the screen if it stands on place `j`, the hundreds on place
zero. -/
def DigitPixel (digit : Byte) (j x y : Nat) : Prop :=
  2 + 5 * j ≤ x ∧ 2 ≤ y ∧ glyphPixel digit.toNat (x - (2 + 5 * j)) (y - 2) = true

/-- The bytes at the glyph of a digit cover the pixels of the digit. -/
theorem spritePixel_glyph {m : Machine} {line j : Nat} {digit : Byte} (running : Running m line)
    (decimal : digit.toNat ≤ 9) (place : j < 3) {x y : Nat} (inside : x < 64) (below : y < 32) :
    Screen.spritePixel (2 + 5 * j) 2 (m.memory.slice (glyphSize * digit.toNat) glyphSize) x y = true ↔
      DigitPixel digit j x y := by
  have rows : (m.memory.slice (glyphSize * digit.toNat) glyphSize).length = 5 :=
    Memory.length_slice _ _ _
  rw [Screen.spritePixel_of_inside (by omega) (by omega) inside below, Memory.getD_slice]
  unfold DigitPixel glyphPixel
  by_cases tall : y - 2 < glyphSize
  · have known : glyphSize * digit.toNat + (y - 2) < 80 := by
      unfold glyphSize at tall ⊢
      omega
    rw [if_pos tall, running.glyphs _ known, decide_eq_true tall, Bool.true_and]
  · rw [if_neg tall, decide_eq_false tall, Bool.false_and, Screen.getMsbD_zero]

/-! ### The digits in the memory and in the registers -/

/-- The digits of a byte, the hundreds on place zero. -/
def digitOf (value : Byte) (j : Nat) : Byte := (Machine.decimalDigits value).getD j 0

theorem digitOf_le (value : Byte) {j : Nat} (place : j < 3) : (digitOf value j).toNat ≤ 9 :=
  Machine.decimalDigits_le value place

theorem sum_digitOf (value : Byte) :
    100 * (digitOf value 0).toNat + 10 * (digitOf value 1).toNat + (digitOf value 2).toNat =
      value.toNat :=
  Machine.sum_decimalDigits value

/-- The digits of `V3` are in the memory and in the registers, `done` of them are on the screen, and the
next one goes to `column`. -/
structure Stage (m : Machine) (line : Nat) (value : Byte) (column done : Nat) : Prop
    extends Running m line where
  counter : m.v 3 = value
  digits : ∀ j < 3, m.v (Register.ofNat j) = digitOf value j
  stored : ∀ j < 3, m.memory.get (0x300 + j) = digitOf value j
  column : m.v 4 = BitVec.ofNat 8 column
  row : m.v 5 = 2
  drawn : m.screen.drawFlag = true
  pixels : ∀ x < 64, ∀ y < 32,
    m.screen.pixel x y = true ↔ ∃ j < done, DigitPixel (digitOf value j) j x y

/-- The first four lines clear the screen and take the digits apart. -/
theorem exists_digits {m : Machine} {value : Byte} (running : Running m 0) (counter : m.v 3 = value) :
    ∃ m', m.Runs 4 m' ∧ Running m' 4 ∧ m'.screen = m.screen.clear ∧ m'.v 3 = value ∧
      ∀ j < 3, m'.memory.get (0x300 + j) = digitOf value j ∧ m'.v (Register.ofNat j) = digitOf value j := by
  obtain ⟨m₁, run₁, at₁, memory₁, screen₁, values₁, index₁⟩ :=
    running.goOn (i := .clearScreen) rfl rfl (fun _ _ => rfl) rfl rfl
  obtain ⟨m₂, run₂, at₂, memory₂, screen₂, values₂, index₂⟩ :=
    at₁.goOn (i := .setIndex 0x300) rfl rfl (fun _ _ => rfl) rfl rfl
  have counter₂ : m₂.v 3 = value := (values₂ 3).trans ((values₁ 3).trans counter)
  have address₂ : m₂.registers.i.toNat = 0x300 := congrArg BitVec.toNat index₂
  -- The digits go to cells behind the program, and from there into the registers.
  have stores := m₂.execute_storeDecimal 3 (by omega)
  rw [address₂, counter₂] at stores
  obtain ⟨m₃, run₃, at₃, memory₃, screen₃, values₃, index₃⟩ := at₂.goOn rfl stores
    (fun k below => Memory.get_store_of_outside _ _ _ _ (.inl below)) rfl rfl
  have address₃ : m₃.registers.i.toNat = 0x300 := (congrArg BitVec.toNat index₃).trans address₂
  have loads := m₃.execute_loadRegisters 2 (by rw [address₃]; decide)
  rw [address₃] at loads
  obtain ⟨m₄, run₄, at₄, memory₄, screen₄, values₄, -⟩ :=
    at₃.goOn rfl loads (fun _ _ => rfl) (by simp) (by simp)
  have loaded (x : Register) :
      m₄.v x = if x.val < 3 then m₃.memory.get (0x300 + x.val) else m₃.v x := by
    rw [values₄, Registers.get_load, Memory.getD_slice]
    rfl
  have stored (j : Nat) (place : j < 3) : m₃.memory.get (0x300 + j) = digitOf value j := by
    rw [memory₃]
    exact Memory.get_store_of_lt m₂.memory place (by simp [Machine.decimalDigits])
  refine ⟨m₄, run₁.trans (run₂.trans (run₃.trans run₄)), at₄, ?_, ?_, ?_⟩
  · rw [screen₄, screen₃, screen₂, screen₁]
  · rw [loaded 3]
    exact (values₃ 3).trans counter₂
  · intro j place
    have number : (Register.ofNat j).val = j := Nat.mod_eq_of_lt (by omega)
    rw [memory₄, loaded, number, if_pos place]
    exact ⟨stored j place, stored j place⟩

/-- The next two lines name the place of the first digit. -/
theorem exists_stage {m : Machine} {value : Byte} (running : Running m 0) (counter : m.v 3 = value) :
    ∃ m', m.Runs 6 m' ∧ Stage m' 6 value 2 0 := by
  obtain ⟨m₄, run₄, at₄, screen₄, counter₄, digits₄⟩ := exists_digits running counter
  obtain ⟨m₅, run₅, at₅, memory₅, screen₅, values₅, -⟩ :=
    at₄.goOn (i := .setByte 4 2) rfl rfl (fun _ _ => rfl) rfl rfl
  obtain ⟨m₆, run₆, at₆, memory₆, screen₆, values₆, -⟩ :=
    at₅.goOn (i := .setByte 5 2) rfl rfl (fun _ _ => rfl) rfl rfl
  have others (x : Register) (not_four : x ≠ 4) (not_five : x ≠ 5) : m₆.v x = m₄.v x := by
    rw [values₆, Registers.get_set_of_ne _ not_five.symm]
    show m₅.v x = _
    rw [values₅, Registers.get_set_of_ne _ not_four.symm]
    rfl
  have screen : m₆.screen = m.screen.clear := by rw [screen₆, screen₅, screen₄]
  refine ⟨m₆, run₄.trans (run₅.trans run₆), at₆, ?_, ?_, ?_, ?_, ?_, ?_, ?_⟩
  · rw [others 3 (by decide) (by decide)]
    exact counter₄
  · intro j place
    have low : ∀ j < 3, Register.ofNat j ≠ 4 ∧ Register.ofNat j ≠ 5 := by decide
    rw [others _ (low j place).1 (low j place).2]
    exact (digits₄ j place).2
  · intro j place
    rw [memory₆, memory₅]
    exact (digits₄ j place).1
  · rw [values₆, Registers.get_set_of_ne _ (by decide)]
    exact (values₅ 4).trans (Registers.get_set_self _ _ _)
  · exact (values₆ 5).trans (Registers.get_set_self _ _ _)
  · rw [screen]
    rfl
  · intro x inside y below
    rw [screen, Screen.pixel_clear]
    simp

/-! ### The digits on the screen -/

namespace Stage

variable {m m' : Machine} {line line' column column' done done' j : Nat} {value : Byte}

/-- Steps that leave the memory alone, and all registers but `V4` and `VF`. -/
theorem transfer (stage : Stage m line value column done) (running : Running m' line')
    (memory : m'.memory = m.memory) (others : ∀ x, x ≠ 4 → x ≠ Register.flag → m'.v x = m.v x)
    (moved : m'.v 4 = BitVec.ofNat 8 column') (drawn : m'.screen.drawFlag = true)
    (pixels : ∀ x < 64, ∀ y < 32,
      m'.screen.pixel x y = true ↔ ∃ j < done', DigitPixel (digitOf value j) j x y) :
    Stage m' line' value column' done' := by
  refine ⟨running, ?_, ?_, ?_, moved, ?_, drawn, pixels⟩
  · exact (others 3 (by decide) (by decide)).trans stage.counter
  · intro j place
    have low : ∀ j < 3, Register.ofNat j ≠ 4 ∧ Register.ofNat j ≠ Register.flag := by decide
    exact (others _ (low j place).1 (low j place).2).trans (stage.digits j place)
  · intro j place
    rw [memory]
    exact stage.stored j place
  · exact (others 5 (by decide) (by decide)).trans stage.row

/-- What is lit belongs to digits further to the left, and glyphs are narrower than their places. -/
theorem not_digitPixel (stage : Stage m line value column j) {x y : Nat} (inside : x < 64)
    (below : y < 32) (lit : m.screen.pixel x y = true) : ¬ DigitPixel (digitOf value j) j x y := by
  obtain ⟨earlier, before, left, -, narrow⟩ := (stage.pixels x inside y below).mp lit
  rintro ⟨right, -, -⟩
  have width := lt_four_of_glyphPixel narrow
  omega

/-- The screen after the next digit. -/
theorem drawSprite_glyph (place : j < 3) (stage : Stage m line value column j) :
    ∃ screen, m.screen.drawSprite (2 + 5 * j) 2
        (m.memory.slice (glyphSize * (digitOf value j).toNat) glyphSize) = (false, screen) ∧
      screen.drawFlag = true ∧ ∀ x < 64, ∀ y < 32,
        screen.pixel x y = true ↔ ∃ i < j + 1, DigitPixel (digitOf value i) i x y := by
  have decimal := digitOf_le value place
  have rows : (m.memory.slice (glyphSize * (digitOf value j).toNat) glyphSize).length ≤ 32 := by
    rw [Memory.length_slice]
    decide
  have covers {x y : Nat} (inside : x < 64) (below : y < 32) :=
    spritePixel_glyph stage.toRunning decimal place inside below
  generalize m.memory.slice (glyphSize * (digitOf value j).toNat) glyphSize = glyph at rows covers ⊢
  have erases : (m.screen.drawSprite (2 + 5 * j) 2 glyph).1 = false := by
    rw [← Bool.not_eq_true, Screen.drawSprite_erases_iff _ _ _ _ rows]
    rintro ⟨x, inside, y, below, lit, covered⟩
    exact stage.not_digitPixel inside below lit ((covers inside below).mp covered)
  refine ⟨_, Prod.ext erases rfl, ?_, ?_⟩
  · rw [Screen.drawFlag_drawSprite, stage.drawn, Bool.true_or]
  · intro x inside y below
    rw [Screen.pixel_drawSprite _ _ _ _ rows inside below]
    by_cases here : DigitPixel (digitOf value j) j x y
    · have dark : m.screen.pixel x y = false :=
        Bool.eq_false_iff.mpr fun lit => stage.not_digitPixel inside below lit here
      rw [dark, (covers inside below).mpr here]
      exact iff_of_true rfl ⟨j, Nat.lt_succ_self j, here⟩
    · have missed : Screen.spritePixel (2 + 5 * j) 2 glyph x y = false :=
        Bool.eq_false_iff.mpr fun covered => here ((covers inside below).mp covered)
      rw [missed, Bool.xor_false, stage.pixels x inside y below]
      constructor
      · rintro ⟨i, before, lit⟩
        exact ⟨i, Nat.lt_succ_of_lt before, lit⟩
      · rintro ⟨i, before, lit⟩
        have other : i ≠ j := by
          rintro rfl
          exact here lit
        exact ⟨i, by omega, lit⟩

/-- The two lines that draw a digit, and the flag and the index after them. -/
theorem draw (place : j < 3) (stage : Stage m (6 + 3 * j) value (2 + 5 * j) j) :
    ∃ m', m.Runs 2 m' ∧ Stage m' (8 + 3 * j) value (2 + 5 * j) (j + 1) ∧ m'.v Register.flag = 0 ∧
      m'.registers.i.toNat = glyphSize * (digitOf value j).toNat := by
  have listed : ∀ j < 3, counterLine (6 + 3 * j) = some (.pointAtGlyph (Register.ofNat j)) ∧
      counterLine (6 + 3 * j + 1) = some (.drawSprite 4 5 5) := by decide
  have decimal := digitOf_le value place
  have small : glyphSize * (digitOf value j).toNat ≤ 45 := by
    unfold glyphSize
    omega
  obtain ⟨m₁, run₁, at₁, memory₁, screen₁, values₁, index₁⟩ :=
    stage.goOn (listed j place).1 rfl (fun _ _ => rfl) rfl rfl
  have address₁ : m₁.registers.i.toNat = glyphSize * (digitOf value j).toNat := by
    rw [index₁]
    show (BitVec.ofNat 16 (glyphSize * (m.v (Register.ofNat j)).toNat)).toNat = _
    rw [stage.digits j place, BitVec.toNat_ofNat]
    omega
  have column₁ : (m₁.v 4).toNat = 2 + 5 * j := by
    rw [values₁]
    show (m.v 4).toNat = _
    rw [stage.column, BitVec.toNat_ofNat]
    omega
  have row₁ : (m₁.v 5).toNat = 2 := congrArg BitVec.toNat ((values₁ 5).trans stage.row)
  obtain ⟨screen, drawn, flag, pixels⟩ := stage.drawSprite_glyph place
  rw [← screen₁, ← memory₁, ← address₁, ← column₁, ← row₁] at drawn
  have fits : m₁.registers.i.toNat + glyphSize ≤ 4096 := by
    rw [address₁]
    exact Nat.le_trans (Nat.add_le_add_right small glyphSize) (by decide)
  have draws := m₁.execute_drawSprite 4 5 5 (.inr fits) drawn
  obtain ⟨m₂, run₂, at₂, memory₂, screen₂, values₂, index₂⟩ :=
    at₁.goOn (listed j place).2 draws (fun _ _ => rfl) rfl rfl
  have others (x : Register) (other : x ≠ Register.flag) : m₂.v x = m.v x := by
    rw [values₂, Registers.get_setFlag _ _ other]
    exact values₁ x
  refine ⟨m₂, run₁.trans run₂, ?_, ?_, ?_⟩
  · rw [show 8 + 3 * j = 6 + 3 * j + 1 + 1 by omega]
    refine stage.transfer at₂ (memory₂.trans memory₁) (fun x _ => others x) ?_ ?_ ?_
    · exact (others 4 (by decide)).trans stage.column
    · rw [screen₂]
      exact flag
    · rw [screen₂]
      exact pixels
  · rw [values₂, Registers.setFlag, Registers.get_set_self]
    rfl
  · exact (congrArg BitVec.toNat index₂).trans address₁

/-- The line between two digits moves on to the next place. -/
theorem moveRight (place : j < 2) (stage : Stage m (8 + 3 * j) value (2 + 5 * j) (j + 1)) :
    ∃ m', m.Runs 1 m' ∧ Stage m' (6 + 3 * (j + 1)) value (2 + 5 * (j + 1)) (j + 1) := by
  have listed : ∀ j < 2, counterLine (8 + 3 * j) = some (.addByte 4 5) := by decide
  obtain ⟨m', run, next, memory, screen, values, -⟩ :=
    stage.goOn (listed j place) rfl (fun _ _ => rfl) rfl rfl
  have others (x : Register) (other : x ≠ 4) : m'.v x = m.v x := by
    rw [values, Registers.get_set_of_ne _ other.symm]
    rfl
  have moved : m'.v 4 = BitVec.ofNat 8 (2 + 5 * (j + 1)) := by
    rw [values, Registers.get_set_self, stage.column]
    apply BitVec.eq_of_toNat_eq
    simp
    omega
  rw [show 8 + 3 * j + 1 = 6 + 3 * (j + 1) by omega] at next
  refine ⟨m', run, stage.transfer next memory (fun x other _ => others x other) moved ?_ ?_⟩
  · rw [screen]
    exact stage.drawn
  · rw [screen]
    exact stage.pixels

/-- All three digits, and the flag and the index after the last of them. -/
theorem drawAll (stage : Stage m 6 value 2 0) :
    ∃ m', m.Runs 8 m' ∧ Stage m' 14 value 12 3 ∧ m'.v Register.flag = 0 ∧
      m'.registers.i.toNat = glyphSize * (digitOf value 2).toNat := by
  obtain ⟨m₁, run₁, stage₁, -, -⟩ := draw (j := 0) (by omega) stage
  obtain ⟨m₂, run₂, stage₂⟩ := moveRight (j := 0) (by omega) stage₁
  obtain ⟨m₃, run₃, stage₃, -, -⟩ := draw (by omega) stage₂
  obtain ⟨m₄, run₄, stage₄⟩ := moveRight (by omega) stage₃
  obtain ⟨m₅, run₅, stage₅, flag, index⟩ := draw (by omega) stage₄
  exact ⟨m₅, run₁.trans (run₂.trans (run₃.trans (run₄.trans run₅))), stage₅, flag, index⟩

end Stage

/-! ### Rounds -/

/-- What the machine is like after `k` rounds of the counter and one more. -/
structure Counted (k : Nat) (m : Machine) : Prop where
  pc : m.registers.pc = 0x200
  counter : (m.v 3).toNat = (k + 1) % 256
  closed : m.registers.stack.depth = 0
  flag : m.v Register.flag = 0
  column : m.v 4 = 12
  row : m.v 5 = 2
  count : m.count = 16 * (k + 1)
  /-- `V0`, `V1` and `V2` are decimal digits. -/
  decimal : ∀ j < 3, (m.v (Register.ofNat j)).toNat ≤ 9
  /-- They are the digits of what `V3` was before it counted. -/
  number : 100 * (m.v 0).toNat + 10 * (m.v 1).toNat + (m.v 2).toNat = k % 256
  stored : ∀ j < 3, m.memory.get (0x300 + j) = m.v (Register.ofNat j)
  index : m.registers.i.toNat = 5 * (m.v 2).toNat
  program : ∀ offset < 32, m.memory.get (0x200 + offset) = Demo.counter.getD offset 0
  glyphs : ∀ offset < 80, m.memory.get offset = font.getD offset 0
  drawn : m.screen.drawFlag = true
  /-- The digits are on the screen, and nothing else is. -/
  pixels : ∀ x < 64, ∀ y < 32,
    m.screen.pixel x y = true ↔ ∃ j < 3, DigitPixel (m.v (Register.ofNat j)) j x y

/-- A round of the counter. -/
theorem exists_counted {m : Machine} {k : Nat} (running : Running m 0)
    (counter : m.v 3 = BitVec.ofNat 8 k) (count : m.count = 16 * k) :
    ∃ m', m.Runs 16 m' ∧ Counted k m' := by
  obtain ⟨value, hvalue⟩ : ∃ value, value = BitVec.ofNat 8 k := ⟨_, rfl⟩
  rw [← hvalue] at counter
  obtain ⟨m₁, run₁, stage₁⟩ := exists_stage running counter
  obtain ⟨m₂, run₂, stage₂, flag₂, index₂⟩ := stage₁.drawAll
  obtain ⟨m₃, run₃, at₃, memory₃, screen₃, values₃, index₃⟩ :=
    stage₂.goOn (i := .addByte 3 1) rfl rfl (fun _ _ => rfl) rfl rfl
  obtain ⟨m₄, run₄, at₄, memory₄, screen₄, values₄, index₄⟩ := at₃.goBack
  have others (x : Register) (other : x ≠ 3) : m₄.v x = m₂.v x := by
    rw [values₄, values₃, Registers.get_set_of_ne _ other.symm]
    rfl
  have digits (j : Nat) (place : j < 3) : m₄.v (Register.ofNat j) = digitOf value j := by
    have low : ∀ j < 3, Register.ofNat j ≠ 3 := by decide
    exact (others _ (low j place)).trans (stage₂.digits j place)
  have runs := run₁.trans (run₂.trans (run₃.trans run₄))
  refine ⟨m₄, runs, ?_⟩
  constructor
  case pc => exact at₄.pc
  case counter =>
    rw [values₄, values₃, Registers.get_set_self, stage₂.counter, hvalue]
    simp
  case closed => exact at₄.closed
  case flag => exact (others Register.flag (by decide)).trans flag₂
  case column => exact (others 4 (by decide)).trans stage₂.column
  case row => exact (others 5 (by decide)).trans stage₂.row
  case count =>
    rw [runs.count, count]
    omega
  case decimal =>
    intro j place
    rw [digits j place]
    exact digitOf_le value place
  case number =>
    have first : m₄.v 0 = digitOf value 0 := digits 0 (by omega)
    have second : m₄.v 1 = digitOf value 1 := digits 1 (by omega)
    have third : m₄.v 2 = digitOf value 2 := digits 2 (by omega)
    rw [first, second, third, sum_digitOf, hvalue, BitVec.toNat_ofNat]
  case stored =>
    intro j place
    rw [memory₄, memory₃, digits j place]
    exact stage₂.stored j place
  case index =>
    have third : m₄.v 2 = digitOf value 2 := digits 2 (by omega)
    rw [index₄, index₃, third]
    exact index₂
  case program => exact at₄.program
  case glyphs => exact at₄.glyphs
  case drawn =>
    rw [screen₄, screen₃]
    exact stage₂.drawn
  case pixels =>
    intro x inside y below
    rw [screen₄, screen₃, stage₂.pixels x inside y below]
    constructor
    · rintro ⟨j, place, lit⟩
      refine ⟨j, place, ?_⟩
      rw [digits j place]
      exact lit
    · rintro ⟨j, place, lit⟩
      rw [digits j place] at lit
      exact ⟨j, place, lit⟩

/-- A round leaves the machine ready for the next one. -/
theorem Counted.running {m : Machine} {k : Nat} (counted : Counted k m) :
    Running m 0 ∧ m.v 3 = BitVec.ofNat 8 (k + 1) := by
  refine ⟨⟨counted.program, counted.glyphs, counted.closed, counted.pc⟩, ?_⟩
  apply BitVec.eq_of_toNat_eq
  rw [counted.counter, BitVec.toNat_ofNat]

/-- What a session counts from on. -/
structure Ready (m : Machine) : Prop extends Running m 0 where
  counter : m.v 3 = 0
  count : m.count = 0

theorem ready_loaded (config : Config) :
    Ready ((Session.initial config).load counter).state.machine := by
  rw [Session.load_of_fits _ (by decide : counter.length ≤ programCapacity)]
  refine ⟨⟨?_, ?_, rfl, rfl⟩, rfl, rfl⟩
  · intro k inside
    exact Memory.get_store_of_lt _ inside (by decide)
  · intro k inside
    have cell : Memory.initial.get (0 + k) = font.getD k 0 :=
      Memory.get_store_of_lt _ inside (by decide)
    rw [Nat.zero_add] at cell
    refine (Memory.get_store_of_outside _ _ _ _ (.inl ?_)).trans cell
    show k < 0x200
    omega

/-- After sixteen instructions for each round the counter has counted them. -/
theorem exists_counted_rounds {m : Machine} (ready : Ready m) (k : Nat) :
    ∃ m', m.Runs (16 * (k + 1)) m' ∧ Counted k m' := by
  induction k with
  | zero => exact exists_counted ready.toRunning ready.counter ready.count
  | succ k ih =>
    obtain ⟨m₁, run₁, counted⟩ := ih
    obtain ⟨running, counter⟩ := counted.running
    obtain ⟨m₂, run₂, counted⟩ := exists_counted running counter counted.count
    exact ⟨m₂, run₁.trans run₂, counted⟩

/-- The steps of a session are those of its machine, and none of them fails. -/
theorem counted_of_ready {s : Session} (ready : Ready s.machine) (k : Nat) :
    let steps := 16 * (k + 1)
    let t := s.play (List.replicate steps .step)
    (∀ n < steps, ∃ word, ((s.play (List.replicate n .step)).step .silent).result = .ok word) ∧
      ((s.runFor (fun _ => .silent) steps).result = .ok steps ∧
        (s.runFor (fun _ => .silent) steps).state = t.stop) ∧
      Counted k t.machine := by
  intro steps t
  obtain ⟨m, runs, counted⟩ := exists_counted_rounds ready k
  have played : t = s.withOther m := s.play_of_runs runs
  rw [played]
  exact ⟨fun n before => s.step_of_runs runs before, s.runFor_of_runs runs, counted⟩

/-- However many rounds the counter goes in a new session, step by step or in a single run, nothing fails
and the count is right. -/
theorem counter_counts (config : Config) (k : Nat) :
    let s := ((Session.initial config).load counter).state
    let steps := 16 * (k + 1)
    let t := s.play (List.replicate steps .step)
    ((Session.initial config).load counter).result = .ok 32 ∧
      (∀ n < steps, ∃ word, ((s.play (List.replicate n .step)).step .silent).result = .ok word) ∧
      ((s.runFor (fun _ => .silent) steps).result = .ok steps ∧
        (s.runFor (fun _ => .silent) steps).state = t.stop) ∧
      Counted k t.machine := by
  have loads : ((Session.initial config).load counter).result = .ok 32 := by
    rw [Session.load_of_fits _ (by decide : counter.length ≤ programCapacity)]
    rfl
  exact ⟨loads, counted_of_ready (ready_loaded config) k⟩

end Demo

end Chip8
