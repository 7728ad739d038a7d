import Chip8.Proofs.Frames

/-!
# Adding to the index

The word `FX1E` adds a register to the index and leaves in `VF` whether the sum passes `0xFFF`.  It writes `VF`
first and reads the register after that, so `VF` cannot be added: what is added in its place is the carry.

Over a run the index collects what the single steps add (`Processor.index_collects`).
-/

namespace Chip8

namespace Machine

/-- The word adds a register to the index. -/
def AddsToIndex (w : Nat) : Prop := w / 4096 = 0xF ∧ w % 256 = 0x1E

instance (w : Nat) : Decidable (AddsToIndex w) := inferInstanceAs (Decidable (_ ∧ _))

/-- The word writes the index in another way. -/
def ExchangesIndex (w : Nat) : Prop := w / 4096 = 0xA ∨ w / 4096 = 0xF ∧ w % 256 = 0x29

instance (w : Nat) : Decidable (ExchangesIndex w) := inferInstanceAs (Decidable (_ ∨ _))

variable (m : Machine)

/-- The register that the next word names first. -/
def operandRegister : Register := Register.ofNat (m.nextWord.toNat / 256)

/-- What is in that register. -/
def operand : Nat := (m.v m.operandRegister).toNat

/-- Whether the index and the operand together pass `0xFFF`. -/
def indexCarry : Nat := if 0xFFF < m.registers.i.toNat + m.operand then 1 else 0

/-- What `FX1E` adds: the operand, but the carry in place of `VF`. -/
def gain : Nat := if m.operandRegister = Register.flag then m.indexCarry else m.operand

/-- The numbers that belong to the additions among some machines, added up. -/
def total (amount : Machine → Nat) : List Machine → Nat
  | [] => 0
  | m :: later => (if AddsToIndex m.nextWord.toNat then amount m else 0) + total amount later

variable {m}

/-- A register other than the flag is added as it is. -/
theorem gain_of_ne_flag (other : m.operandRegister ≠ Register.flag) : m.gain = m.operand := if_neg other

/-- The flag has been written when it is added, so what is added is the carry. -/
theorem gain_of_flag (same : m.operandRegister = Register.flag) : m.gain = m.indexCarry := if_pos same

theorem indexCarry_le_one : m.indexCarry ≤ 1 := by
  unfold indexCarry
  split <;> decide

theorem total_congr {amount amount' : Machine → Nat} {found : List Machine}
    (same : ∀ m ∈ found, AddsToIndex m.nextWord.toNat → amount m = amount' m) :
    total amount found = total amount' found := by
  induction found with
  | nil => rfl
  | cons m later ih =>
    have first : (if AddsToIndex m.nextWord.toNat then amount m else 0) =
        if AddsToIndex m.nextWord.toNat then amount' m else 0 := by
      split
      · next adds => exact same m List.mem_cons_self adds
      · rfl
    rw [total, total, first, ih fun m' mem => same m' (List.mem_cons_of_mem _ mem)]

end Machine

namespace Registers

variable (r : Registers) (x : Register)

/-- The carry is written first, and is what is read again from `VF`. -/
theorem addToIndex_carry :
    let carry := if 0xFFF < r.i.toNat + (r.get x).toNat then 1 else 0
    ((r.addToIndex x).get Register.flag).toNat = carry ∧
      (r.addToIndex x).i.toNat =
        (r.i.toNat + if x = Register.flag then carry else (r.get x).toNat) % 65536 := by
  intro carry
  have flag : ((r.setFlag (0xFFF < r.i.toNat + (r.get x).toNat)).get Register.flag).toNat = carry := by
    rw [setFlag, get_set_self]
    by_cases passes : 0xFFF < r.i.toNat + (r.get x).toNat <;> simp [carry, passes]
  refine ⟨flag, ?_⟩
  have sum : (r.addToIndex x).i.toNat = (r.i.toNat +
      ((r.setFlag (0xFFF < r.i.toNat + (r.get x).toNat)).get x).toNat) % 65536 := by
    rw [addToIndex, BitVec.toNat_add, BitVec.toNat_setWidth, Nat.add_mod_mod]
    rfl
  rw [sum]
  by_cases same : x = Register.flag
  · rw [if_pos same, same, ← flag, same]
  · rw [if_neg same, get_setFlag _ _ same]

end Registers

namespace Processor

open Machine

/-- A word that adds to the index is carried out, whatever the operand. -/
theorem exists_step_of_addsToIndex (m : Machine) (sent : List Signal) {word : Word}
    (fetched : m.fetch = .ok word) (adds : AddsToIndex word.toNat) :
    ∃ work, step.run ⟨m, sent⟩ = .ok word work ∧
      (work.machine.v Register.flag).toNat = m.indexCarry ∧
      work.machine.registers.i.toNat = (m.registers.i.toNat + m.gain) % 65536 := by
  obtain ⟨-, found⟩ := of_fetch_ok fetched
  have spells : (Instruction.addToIndex m.operandRegister).spells word.toNat :=
    ⟨adds, by rw [operandRegister, ← found]; rfl⟩
  have stepped := step_of_execute fetched (Instruction.ofWord?_of_spells spells) rfl
  refine ⟨_, step_run_eq_ok_iff.mpr ⟨_, stepped, rfl, rfl⟩, ?_⟩
  exact m.registers.addToIndex_carry m.operandRegister

/-- Steps that succeed, one after the other, and the machines that they find. -/
inductive Passes : Work → List Machine → Work → Prop
  | done (work : Work) : Passes work [] work
  | step {work next last : Work} {word : Word} {later : List Machine} :
      step.run work = .ok word next → Passes next later last → Passes work (work.machine :: later) last

variable {work next last : Work} {word : Word} {found : List Machine}

/-- A step adds to the index what its word does. -/
theorem index_of_step (ran : step.run work = .ok word next)
    (kind : ¬ ExchangesIndex work.machine.nextWord.toNat) :
    next.machine.registers.i.toNat = (work.machine.registers.i.toNat +
      if AddsToIndex work.machine.nextWord.toNat then work.machine.gain else 0) % 65536 := by
  obtain ⟨p, stepped, rfl, rfl⟩ := step_run_eq_ok_iff.mp ran
  obtain ⟨inside, found, -⟩ := of_step_ok stepped
  split
  · next adds =>
    obtain ⟨after, ran', -, index⟩ := exists_step_of_addsToIndex work.machine work.sent
      (fetch_of_inside inside found.symm) (found ▸ adds)
    cases ran.symm.trans ran'
    exact index
  · next other =>
    have kept := (framed_of_step stepped).index
    rw [found] at kept
    have bound := work.machine.registers.i.isLt
    rw [kept ?_]
    · omega
    · rintro (exchanges | ⟨group, low⟩)
      · exact kind (.inl exchanges)
      · simp only [List.mem_cons, List.not_mem_nil, or_false] at low
        exact low.elim (fun low => other ⟨group, low⟩) fun low => kind (.inr ⟨group, low⟩)

/-- Over steps that do nothing else to the index, it gains what each of them adds. -/
theorem index_of_passes (passes : Passes work found last)
    (kind : ∀ m ∈ found, ¬ ExchangesIndex m.nextWord.toNat) :
    last.machine.registers.i.toNat =
      (work.machine.registers.i.toNat + total gain found) % 65536 := by
  induction passes with
  | done work =>
    have bound := work.machine.registers.i.isLt
    rw [total]
    omega
  | @step work next last word later ran _ ih =>
    have first := index_of_step ran (kind _ List.mem_cons_self)
    -- Every step takes a remainder, and it is enough to take one at the end.
    rw [ih fun m mem => kind m (List.mem_cons_of_mem _ mem), first, total, Nat.mod_add_mod,
      Nat.add_assoc]

/-- The word `FX1E` is always carried out, and leaves in `VF` whether the index and `VX` together pass `0xFFF`.
Any `VX` but `VF` is added to the index.  In place of `VF` the carry is, so the sum is right only if `VF` has
had that value before.

Over a run whose words do not write the index in another way, it collects what is added step by step: the
operands that were found, if none of them is `VF`. -/
theorem index_collects (m : Machine) (sent : List Signal) :
    (∀ word, m.fetch = .ok word → AddsToIndex word.toNat →
      let x := Register.ofNat (word.toNat / 256)
      let a := (m.v x).toNat
      let i := m.registers.i.toNat
      ∃ work, step.run ⟨m, sent⟩ = .ok word work ∧
        let carry := (work.machine.v Register.flag).toNat
        let index := work.machine.registers.i.toNat
        carry = (if 0xFFF < i + a then 1 else 0) ∧
        (x ≠ Register.flag → index = (i + a) % 65536) ∧
        (x = Register.flag → index = (i + carry) % 65536) ∧
        (index = (i + a) % 65536 ↔ x ≠ Register.flag ∨ a = carry)) ∧
    ∀ found last, Passes ⟨m, sent⟩ found last →
      (∀ m' ∈ found, ¬ ExchangesIndex m'.nextWord.toNat) →
      let i := m.registers.i.toNat
      let index := last.machine.registers.i.toNat
      index = (i + total gain found) % 65536 ∧
        ((∀ m' ∈ found, AddsToIndex m'.nextWord.toNat → m'.operandRegister ≠ Register.flag) →
          index = (i + total operand found) % 65536) := by
  constructor
  · intro word fetched adds x a i
    obtain ⟨work, ran, carried, index⟩ := exists_step_of_addsToIndex m sent fetched adds
    obtain ⟨-, rfl⟩ := of_fetch_ok fetched
    have apart (other : x ≠ Register.flag) : work.machine.registers.i.toNat = (i + a) % 65536 := by
      rw [index, gain_of_ne_flag other]
      rfl
    have through (same : x = Register.flag) :
        work.machine.registers.i.toNat = (i + (work.machine.v Register.flag).toNat) % 65536 := by
      rw [index, gain_of_flag same, carried]
    refine ⟨work, ran, carried, apart, through, ?_⟩
    by_cases same : x = Register.flag
    · have small : a < 256 := (m.v x).isLt
      have carry : m.indexCarry ≤ 1 := indexCarry_le_one
      have only : (i + m.indexCarry) % 65536 = (i + a) % 65536 ↔ a = m.indexCarry := by omega
      rw [through same, carried, only]
      exact ⟨.inr, fun equal => equal.resolve_left (absurd same)⟩
    · exact iff_of_true (apart same) (.inl same)
  · intro found last passes kind i index
    have collected := index_of_passes passes kind
    refine ⟨collected, fun apart => collected.trans ?_⟩
    have same : total gain found = total operand found :=
      total_congr fun m' mem adds => gain_of_ne_flag (apart m' mem adds)
    rw [same]

/-- Adding the same register twice, where the first sum does not fit into the index. -/
theorem index_collects_twice :
    let m := { Machine.initial (.listed [] 0) with
      memory := Memory.initial.store 0x200 [0xF1, 0x1E, 0xF1, 0x1E]
      registers := { Registers.initial.set (Register.ofNat 1) 5 with i := 0xFFFC } }
    ∃ first last, step.run ⟨m, []⟩ = .ok 0xF11E first ∧
      (first.machine.v Register.flag).toNat = 1 ∧ first.machine.registers.i.toNat = 1 ∧
      Passes ⟨m, []⟩ [m, first.machine] last ∧ last.machine.registers.i.toNat = 6 := by
  intro m
  have facts : m.registers.pc.toNat ≤ 0xFFE ∧ m.nextWord = 0xF11E ∧ m.v (Register.ofNat 1) = 5 ∧
      m.registers.i = 0xFFFC ∧ m.next.registers.pc.toNat ≤ 0xFFE ∧ m.next.nextWord = 0xF11E ∧
      m.next.v (Register.ofNat 1) = 5 := by
    decide +kernel
  obtain ⟨inside, found, five, start, inside', found', five'⟩ := facts
  obtain ⟨single, run⟩ := index_collects m []
  obtain ⟨first, ran, carried, sum, -⟩ := single 0xF11E (fetch_of_inside inside found) (by decide)
  rw [← next_of_run ran] at inside' found' five'
  obtain ⟨last, ran', -⟩ := (index_collects first.machine first.sent).1 0xF11E
    (fetch_of_inside inside' found') (by decide)
  have passes : Passes ⟨m, []⟩ [m, first.machine] last := .step ran (.step ran' (.done last))
  have names {m : Machine} (found : m.nextWord = 0xF11E) :
      ¬ ExchangesIndex m.nextWord.toNat ∧ m.operandRegister = Register.ofNat 1 := by
    rw [operandRegister, found]
    decide
  have value {m : Machine} (found : m.nextWord = 0xF11E) (five : m.v (Register.ofNat 1) = 5) :
      m.operand = 5 := by
    rw [operand, (names found).2, five]
    rfl
  have all (P : Machine → Prop) (here : P m) (there : P first.machine) :
      ∀ m' ∈ [m, first.machine], P m' := by
    intro m' mem
    rcases List.mem_cons.mp mem with rfl | mem
    · exact here
    · exact List.mem_singleton.mp mem ▸ there
  obtain ⟨-, apart⟩ := run _ last passes (all _ (names found).1 (names found').1)
  have collected := apart (all _
    (fun _ => (names found).2 ▸ by decide) (fun _ => (names found').2 ▸ by decide))
  have gains : total operand [m, first.machine] = 10 := by
    simp only [total, found, found', value found five, value found' five']
    decide
  have five : (m.v (Register.ofNat ((0xF11E : Word).toNat / 256))).toNat = 5 :=
    congrArg BitVec.toNat five
  rw [five, start] at carried sum
  rw [gains, start] at collected
  exact ⟨first, last, ran, carried, sum (by decide), passes, collected⟩

/-- An index of `0x300` and a `VF` of 16 do not make `0x310`: nothing is added. -/
theorem index_collects_no_flag :
    let m := { Machine.initial (.listed [] 0) with
      memory := Memory.initial.store 0x200 [0xFF, 0x1E]
      registers := { Registers.initial.set Register.flag 16 with i := 0x300 } }
    ∃ work, step.run ⟨m, []⟩ = .ok 0xFF1E work ∧ m.registers.i = 0x300 ∧ m.v Register.flag = 16 ∧
      work.machine.registers.i.toNat = 0x300 ∧
      work.machine.registers.i.toNat ≠
        (m.registers.i.toNat + (m.v Register.flag).toNat) % 65536 := by
  intro m
  have facts : m.registers.pc.toNat ≤ 0xFFE ∧ m.nextWord = 0xFF1E ∧ m.registers.i = 0x300 ∧
      m.v Register.flag = 16 ∧ m.gain = 0 := by
    decide +kernel
  obtain ⟨inside, found, start, operand, nothing⟩ := facts
  obtain ⟨work, ran, -, index⟩ :=
    exists_step_of_addsToIndex m [] (fetch_of_inside inside found) (by decide)
  rw [start, nothing] at index
  refine ⟨work, ran, start, operand, index, ?_⟩
  rw [index, start, operand]
  decide

end Processor

end Chip8
