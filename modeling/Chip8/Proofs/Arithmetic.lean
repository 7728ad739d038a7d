import Chip8.Proofs.Frames

/-!
# Arithmetic on two registers

The operations of group 8 write a result and `VF`, one after the other, and nothing keeps a program from
naming `VF` as an operand.  What comes out then hangs on the order.  The bitwise operations and the addition
write `VF` last, so it is the flag even where it should have been the result.  The subtractions write it
first, and the result wins.

The shifts write `VF` first as well, but they read their operand again after that.  Halving gets away with it:
what it writes to `VF` has the same half as the operand (`Processor.arithmetic_is_exact`).  Doubling does not
(`Processor.shift_left_through_flag`).
-/

namespace Chip8

/-! ### What is left in the registers -/

namespace AluOp

/-- The result is in `VX`, unless that is `VF`, and zero in `VF`. -/
def Combines (v : Register → Byte) (x : Register) (result : Byte) : Prop :=
  (x ≠ Register.flag → v x = result) ∧ v Register.flag = 0

/-- The sum is in `VX`, unless that is `VF`, and the carry in `VF`, so none of the sum is lost. -/
def Adds (v : Register → Byte) (x : Register) (a b : Byte) : Prop :=
  (v Register.flag).toNat = (if 0xFF < a.toNat + b.toNat then 1 else 0) ∧
    (x ≠ Register.flag →
      (v x).toNat = (a.toNat + b.toNat) % 256 ∧
        a.toNat + b.toNat = (v x).toNat + 256 * (v Register.flag).toNat)

/-- What `a` has left after `b` is taken off is in `VX`.  Unless that is `VF`, there is a one in `VF` if nothing
was borrowed, so none of the difference is lost. -/
def Subtracts (v : Register → Byte) (x : Register) (a b : Byte) : Prop :=
  ((v x).toNat : Int) = (a.toNat - b.toNat) % 256 ∧
    (x ≠ Register.flag →
      (v Register.flag).toNat = (if b.toNat ≤ a.toNat then 1 else 0) ∧
        (a.toNat : Int) - b.toNat = (v x).toNat - 256 * (1 - (v Register.flag).toNat))

/-- Half of `b` is in `VY`.  Unless that is `VF`, there is `b` with its lowest bit set in `VF`. -/
def Halves (v : Register → Byte) (y : Register) (b : Byte) : Prop :=
  (v y).toNat = b.toNat / 2 ∧ (y ≠ Register.flag → v Register.flag = b ||| 1)

/-- The double of `b` is in `VY`, and the bit that is shifted out in `VF`.  If these are one register, it holds
the double of that bit. -/
def Doubles (v : Register → Byte) (y : Register) (b : Byte) : Prop :=
  (y ≠ Register.flag →
      (v y).toNat = 2 * b.toNat % 256 ∧ (v Register.flag).toNat = b.toNat / 128) ∧
    (y = Register.flag → (v Register.flag).toNat = 2 * (b.toNat / 128))

/-- What an operation leaves in the registers if it finds `a` in `VX` and `b` in `VY`. -/
def Leaves (v : Register → Byte) (x y : Register) (a b : Byte) : AluOp → Prop
  | .copy => v x = b
  | .or => Combines v x (a ||| b)
  | .and => Combines v x (a &&& b)
  | .xor => Combines v x (a ^^^ b)
  | .add => Adds v x a b
  | .sub => Subtracts v x a b
  | .halve => Halves v y b
  | .subFrom => Subtracts v x b a
  | .double => Doubles v y b

end AluOp

namespace Registers

variable (r : Registers) (x y : Register) (a b : Byte)

theorem get_flag_setFlag (on : Bool) : (r.setFlag on).get Register.flag = if on then 1 else 0 :=
  r.get_set_self _ _

/-- The flag is written last, so it is zero also where the result was to stand there. -/
theorem combines_of_flag_last (result : Byte) :
    AluOp.Combines ((r.set x result).setFlag false).get x result := by
  constructor
  · intro other
    rw [get_setFlag _ _ other, get_set_self]
  · rw [get_flag_setFlag]
    rfl

/-- With the flag as target the carry is left and the sum is lost. -/
theorem adds_of_flag_last :
    AluOp.Adds ((r.set x (a + b)).setFlag (0xFF < a.toNat + b.toNat)).get x a b := by
  have flag : (((r.set x (a + b)).setFlag (0xFF < a.toNat + b.toNat)).get Register.flag).toNat =
      if 0xFF < a.toNat + b.toNat then 1 else 0 := by
    rw [get_flag_setFlag]
    split <;> simp_all
  refine ⟨flag, fun other => ?_⟩
  rw [flag, get_setFlag _ _ other, get_set_self, BitVec.toNat_add]
  have := a.isLt
  have := b.isLt
  split <;> omega

/-- With the flag as target the difference is left and the borrow is lost. -/
theorem subtracts_of_flag_first :
    AluOp.Subtracts ((r.setFlag (b ≤ a)).set x (a - b)).get x a b := by
  have := a.isLt
  have := b.isLt
  constructor
  · rw [get_set_self, BitVec.toNat_sub]
    omega
  · intro other
    have flag : (((r.setFlag (b ≤ a)).set x (a - b)).get Register.flag).toNat =
        if b.toNat ≤ a.toNat then 1 else 0 := by
      rw [get_set_of_ne _ other, get_flag_setFlag]
      by_cases less : b.toNat ≤ a.toNat <;> simp [BitVec.le_def, less]
    refine ⟨flag, ?_⟩
    rw [flag, get_set_self, BitVec.toNat_sub]
    split <;> omega

/-- The lowest bit goes when a byte is halved, so it does not matter that it was set before. -/
theorem toNat_half_or_one : ((b ||| 1) >>> 1).toNat = b.toNat / 2 := by
  rw [BitVec.toNat_ushiftRight, Nat.shiftRight_eq_div_pow, BitVec.toNat_or, Nat.pow_one, Nat.or_div_two]
  exact Nat.or_zero _

/-- Halving writes the flag first and reads the register again. -/
theorem halves_alu : AluOp.Halves (r.alu .halve x y).get y (r.get y) := by
  constructor
  · rw [alu, get_set_self]
    by_cases same : y = Register.flag
    · rw [same, get_set_self, toNat_half_or_one]
    · rw [get_set_of_ne _ (Ne.symm same), BitVec.toNat_ushiftRight, Nat.shiftRight_eq_div_pow,
        Nat.pow_one]
  · intro other
    rw [alu, get_set_of_ne _ other, get_set_self]

theorem doubles_alu : AluOp.Doubles (r.alu .double x y).get y (r.get y) := by
  have shiftedOut : (r.get y >>> 7).toNat = (r.get y).toNat / 128 := by
    rw [BitVec.toNat_ushiftRight, Nat.shiftRight_eq_div_pow]
  have doubled (byte : Byte) : (byte <<< 1).toNat = 2 * byte.toNat % 256 := by
    rw [BitVec.toNat_shiftLeft, Nat.shiftLeft_eq, Nat.mul_comm]
  constructor
  · intro other
    rw [alu, get_set_self, get_set_of_ne _ (Ne.symm other), get_set_of_ne _ other, get_set_self]
    exact ⟨doubled _, shiftedOut⟩
  · intro same
    have := (r.get y).isLt
    -- What is read again is the bit that has just been written.
    rw [alu, same, get_set_self, get_set_self, doubled, ← same, shiftedOut]
    omega

theorem leaves_alu (op : AluOp) : op.Leaves (r.alu op x y).get x y (r.get x) (r.get y) := by
  cases op with
  | copy => exact r.get_set_self x _
  | or | and | xor => exact r.combines_of_flag_last x _
  | add => exact r.adds_of_flag_last x _ _
  | sub | subFrom => exact r.subtracts_of_flag_first x _ _
  | halve => exact r.halves_alu x y
  | double => exact r.doubles_alu x y

end Registers

namespace Processor

/-- A word of group 8 that spells an operation is carried out, whatever the operands. -/
theorem exists_step_of_alu (m : Machine) (sent : List Signal) {word : Word} {op : AluOp}
    (fetched : m.fetch = .ok word) (group : word.toNat / 4096 = 8)
    (nibble : Instruction.aluOp? (word.toNat % 16) = some op) :
    let x := Register.ofNat (word.toNat / 256)
    let y := Register.ofNat (word.toNat / 16)
    ∃ work, step.run ⟨m, sent⟩ = .ok word work ∧
      op.Leaves work.machine.v x y (m.v x) (m.v y) ∧
      (∀ z, ¬ op.Writes x y z → work.machine.v z = m.v z) ∧
      work.machine.registers.i = m.registers.i ∧
      work.machine.registers.pc = m.registers.pc + 2 ∧
      work.machine.registers.stack = m.registers.stack := by
  intro x y
  have spells : (Instruction.alu op x y).spells word.toNat := ⟨⟨group, nibble⟩, rfl, rfl⟩
  have stepped := Machine.step_of_execute fetched (Instruction.ofWord?_of_spells spells) rfl
  refine ⟨_, step_run_eq_ok_iff.mpr ⟨_, stepped, rfl, rfl⟩, ?_, ?_, ?_, ?_, ?_⟩
  · exact m.registers.leaves_alu x y op
  · intro z spared
    exact m.registers.get_alu_of_not_writes spared
  · exact m.registers.i_alu op x y
  · exact congrArg (· + 2) (m.registers.pc_alu op x y)
  · exact m.registers.stack_alu op x y

/-- The words of group 8 that compute, but for the one that doubles: what they leave in `VX`, in `VY` and in
`VF`, also where some of these are one register.  All the others keep their values. -/
theorem arithmetic_is_exact (m : Machine) (sent : List Signal) {word : Word} (fetched : m.fetch = .ok word)
    (group : word.toNat / 4096 = 8) (computes : word.toNat % 16 ∈ [1, 2, 3, 4, 5, 6, 7]) :
    let x := Register.ofNat (word.toNat / 256)
    let y := Register.ofNat (word.toNat / 16)
    let a := m.v x
    let b := m.v y
    ∃ work, step.run ⟨m, sent⟩ = .ok word work ∧
      let v := work.machine.v
      (word.toNat % 16 = 1 → AluOp.Combines v x (a ||| b)) ∧
      (word.toNat % 16 = 2 → AluOp.Combines v x (a &&& b)) ∧
      (word.toNat % 16 = 3 → AluOp.Combines v x (a ^^^ b)) ∧
      (word.toNat % 16 = 4 → AluOp.Adds v x a b) ∧
      (word.toNat % 16 = 5 → AluOp.Subtracts v x a b) ∧
      (word.toNat % 16 = 6 → AluOp.Halves v y b) ∧
      (word.toNat % 16 = 7 → AluOp.Subtracts v x b a) ∧
      (∀ z, z ≠ Register.flag → z ≠ (if word.toNat % 16 = 6 then y else x) → v z = m.v z) ∧
      work.machine.registers.i = m.registers.i ∧
      work.machine.registers.pc = m.registers.pc + 2 ∧
      work.machine.registers.stack = m.registers.stack := by
  intro x y a b
  have low : word.toNat % 16 = 1 ∨ word.toNat % 16 = 2 ∨ word.toNat % 16 = 3 ∨ word.toNat % 16 = 4 ∨
      word.toNat % 16 = 5 ∨ word.toNat % 16 = 6 ∨ word.toNat % 16 = 7 := by
    simpa using computes
  obtain ⟨op, nibble⟩ : ∃ op, Instruction.aluOp? (word.toNat % 16) = some op := by
    rcases low with low | low | low | low | low | low | low <;> exact ⟨_, by rw [low]; rfl⟩
  obtain ⟨work, ran, leaves, spares, rest⟩ := exists_step_of_alu m sent fetched group nibble
  have is {k : Nat} {known : AluOp} (low : word.toNat % 16 = k)
      (table : Instruction.aluOp? k = some known) : op = known := by
    rw [low, table] at nibble
    exact (Option.some.inj nibble).symm
  have leaves {k : Nat} {known : AluOp} (low : word.toNat % 16 = k)
      (table : Instruction.aluOp? k = some known) : known.Leaves work.machine.v x y a b :=
    is low table ▸ leaves
  refine ⟨work, ran, fun low => leaves low rfl, fun low => leaves low rfl, fun low => leaves low rfl,
    fun low => leaves low rfl, fun low => leaves low rfl, fun low => leaves low rfl,
    fun low => leaves low rfl, ?_, rest⟩
  intro z notFlag other
  apply spares
  rintro writes
  rcases low with low | low | low | low | low | low | low
  all_goals
    rw [is low rfl] at writes
    rw [low] at other
    exact writes.elim other notFlag

/-- A difference that borrows, with `VF` taken off: the flag is read before it is written. -/
theorem arithmetic_is_exact_borrow :
    let m := { Machine.initial (.listed [] 0) with
      memory := Memory.initial.store 0x200 [0x81, 0xF5]
      registers := (Registers.initial.set (Register.ofNat 1) 5).set Register.flag 7 }
    ∃ work, step.run ⟨m, []⟩ = .ok 0x81F5 work ∧
      (work.machine.v (Register.ofNat 1)).toNat = 254 ∧ (work.machine.v Register.flag).toNat = 0 ∧
      work.machine.v (Register.ofNat 0) = 0 := by
  intro m
  have facts : m.registers.pc.toNat ≤ 0xFFE ∧ m.nextWord = 0x81F5 ∧
      m.v (Register.ofNat (0x81F5 / 256)) = 5 ∧ m.v (Register.ofNat (0x81F5 / 16)) = 7 ∧
      m.v (Register.ofNat 0) = 0 := by
    decide +kernel
  obtain ⟨inside, found, five, seven, zero⟩ := facts
  obtain ⟨work, ran, -, -, -, -, subtracts, -, -, spares, -⟩ :=
    arithmetic_is_exact m [] (Machine.fetch_of_inside inside found) (by decide) (by decide)
  obtain ⟨difference, exact⟩ := subtracts rfl
  obtain ⟨borrowed, -⟩ := exact (by decide)
  refine ⟨work, ran, ?_, ?_, (spares _ (by decide) (by decide)).trans zero⟩
  · have difference : ((work.machine.v (Register.ofNat 1)).toNat : Int) =
        ((5 : Byte).toNat - (7 : Byte).toNat) % 256 := by
      rw [← five, ← seven]
      exact difference
    exact Int.ofNat.inj difference
  · have borrowed : (work.machine.v Register.flag).toNat =
        if (7 : Byte).toNat ≤ (5 : Byte).toNat then 1 else 0 := by
      rw [← five, ← seven]
      exact borrowed
    exact borrowed

/-- The word of group 8 that doubles.  If `VY` is another register than `VF`, it is doubled, and `VF` has the bit
that was shifted out.  If it is `VF`, that bit is doubled in place of the operand.  This is neither the double
of the operand nor the bit, unless no bit was shifted out or the operand is 129. -/
theorem shift_left_through_flag (m : Machine) (sent : List Signal) {word : Word}
    (fetched : m.fetch = .ok word) (group : word.toNat / 4096 = 8) (doubles : word.toNat % 16 = 0xE) :
    let y := Register.ofNat (word.toNat / 16)
    let b := (m.v y).toNat
    ∃ work, step.run ⟨m, sent⟩ = .ok word work ∧
      let v := work.machine.v
      (y ≠ Register.flag → (v y).toNat = 2 * b % 256 ∧ (v Register.flag).toNat = b / 128) ∧
      (y = Register.flag → (v Register.flag).toNat = 2 * (b / 128) ∧
        ((v Register.flag).toNat ∈ [2 * b % 256, b / 128] ↔ b < 128 ∨ b = 129)) ∧
      ∀ z, z ≠ Register.flag → z ≠ y → v z = m.v z := by
  intro y b
  have nibble : Instruction.aluOp? (word.toNat % 16) = some .double := by
    rw [doubles]
    rfl
  obtain ⟨work, ran, ⟨apart, same⟩, spares, -⟩ := exists_step_of_alu m sent fetched group nibble
  refine ⟨work, ran, apart, fun flag => ⟨same flag, ?_⟩, fun z notFlag other => ?_⟩
  · have bound : b < 256 := (m.v y).isLt
    rw [same flag]
    simp only [List.mem_cons, List.not_mem_nil, or_false]
    show 2 * (b / 128) = 2 * b % 256 ∨ 2 * (b / 128) = b / 128 ↔ _
    rcases Nat.lt_or_ge b 128 with low | high
    · rw [Nat.div_eq_of_lt low]
      omega
    · rw [show b / 128 = 1 by omega]
      omega
  · exact spares z fun writes => writes.elim other notFlag

theorem shift_left_through_flag_apart :
    let m := { Machine.initial (.listed [] 0) with
      memory := Memory.initial.store 0x200 [0x80, 0x1E]
      registers := Registers.initial.set (Register.ofNat 1) 0x81 }
    ∃ work, step.run ⟨m, []⟩ = .ok 0x801E work ∧
      (work.machine.v (Register.ofNat 1)).toNat = 2 ∧ (work.machine.v Register.flag).toNat = 1 := by
  intro m
  have facts : m.registers.pc.toNat ≤ 0xFFE ∧ m.nextWord = 0x801E ∧
      m.v (Register.ofNat (0x801E / 16)) = 0x81 := by
    decide +kernel
  obtain ⟨inside, found, operand⟩ := facts
  obtain ⟨work, ran, apart, -⟩ :=
    shift_left_through_flag m [] (Machine.fetch_of_inside inside found) (by decide) (by decide)
  obtain ⟨double, shiftedOut⟩ := apart (by decide)
  have operand : (m.v (Register.ofNat (0x801E / 16))).toNat = 0x81 := congrArg BitVec.toNat operand
  refine ⟨work, ran, double.trans ?_, shiftedOut.trans ?_⟩
  · exact congrArg (2 * · % 256) operand
  · exact congrArg (· / 128) operand

/-- A `VF` of `0xC0` is left with a two, which is not the double `0x80` and not the bit that was shifted out. -/
theorem shift_left_of_flag :
    let m := { Machine.initial (.listed [] 0) with
      memory := Memory.initial.store 0x200 [0x80, 0xFE]
      registers := Registers.initial.set Register.flag 0xC0 }
    let b := (m.v Register.flag).toNat
    ∃ work, step.run ⟨m, []⟩ = .ok 0x80FE work ∧ b = 0xC0 ∧
      (work.machine.v Register.flag).toNat = 2 ∧
      (work.machine.v Register.flag).toNat ≠ 2 * b % 256 ∧
      (work.machine.v Register.flag).toNat ≠ b / 128 := by
  intro m b
  have facts : m.registers.pc.toNat ≤ 0xFFE ∧ m.nextWord = 0x80FE ∧ b = 0xC0 := by decide +kernel
  obtain ⟨inside, found, operand⟩ := facts
  have nibble : Instruction.aluOp? ((0x80FE : Word).toNat % 16) = some .double := rfl
  obtain ⟨work, ran, ⟨-, doubled⟩, -⟩ :=
    exists_step_of_alu m [] (Machine.fetch_of_inside inside found) (by decide) nibble
  have two : (work.machine.v Register.flag).toNat = 2 := by
    refine (doubled rfl).trans ?_
    show 2 * (b / 128) = 2
    omega
  exact ⟨work, ran, operand, two, by omega, by omega⟩

end Processor

end Chip8
