import Chip8.Proofs.Faults

/-!
# Where the program goes

A step moves the program counter and may open or close a call.  `Machine.Moves` says how, for every
instruction, from what the machine was like before; the other registers, the memory and the rest have
no part in it.  `Machine.moves_of_step` proves that successful steps keep to this.

`Machine.nextPc` reads the same off the word alone, as a number: where it leads to, and when it skips.
-/

namespace Chip8

/-! ### Writes to other registers -/

namespace Registers

variable (r : Registers)

@[simp] theorem pc_set (x : Register) (value : Byte) : (r.set x value).pc = r.pc := rfl

@[simp] theorem stack_set (x : Register) (value : Byte) : (r.set x value).stack = r.stack := rfl

@[simp] theorem pc_setFlag (on : Bool) : (r.setFlag on).pc = r.pc := rfl

@[simp] theorem stack_setFlag (on : Bool) : (r.setFlag on).stack = r.stack := rfl

@[simp] theorem pc_alu (op : AluOp) (x y : Register) : (r.alu op x y).pc = r.pc := by
  cases op <;> rfl

@[simp] theorem stack_alu (op : AluOp) (x y : Register) : (r.alu op x y).stack = r.stack := by
  cases op <;> rfl

@[simp] theorem pc_addToIndex (x : Register) : (r.addToIndex x).pc = r.pc := rfl

@[simp] theorem stack_addToIndex (x : Register) : (r.addToIndex x).stack = r.stack := rfl

@[simp] theorem pc_load (bytes : List Byte) : (r.load bytes).pc = r.pc := by rw [load]

@[simp] theorem stack_load (bytes : List Byte) : (r.load bytes).stack = r.stack := by rw [load]

@[simp] theorem pc_advance (words : Nat) :
    (r.advance words).pc = r.pc + BitVec.ofNat 16 (2 * words) := rfl

@[simp] theorem stack_advance (words : Nat) : (r.advance words).stack = r.stack := rfl

end Registers

/-! ### Slots of the call stack -/

namespace CallStack

/-- The address in a slot; zero where there is none. -/
def slot (s : CallStack) (k : Nat) : Word :=
  if h : k < 16 then s.slots[k] else 0

variable {s t : CallStack} {address : Word}

/-- A push takes the first free slot and leaves the others alone. -/
theorem of_push? (h : s.push? address = some t) :
    t.depth = s.depth + 1 ∧ ∀ k, t.slot k = if k = s.depth then address else s.slot k := by
  unfold push? at h
  split at h
  · next free =>
    cases h
    refine ⟨rfl, fun k => ?_⟩
    unfold slot
    by_cases inside : k < 16
    · rw [dif_pos inside, dif_pos inside, Vector.getElem_set]
      by_cases here : k = s.depth
      · rw [if_pos here, if_pos here.symm]
      · rw [if_neg here, if_neg (Ne.symm here)]
    · rw [dif_neg inside, dif_neg inside, if_neg (by omega)]
  · cases h

/-- A pop reads the last slot in use and writes none. -/
theorem of_pop? (h : s.pop? = some (address, t)) :
    t.depth + 1 = s.depth ∧ address = s.slot (s.depth - 1) ∧ ∀ k, t.slot k = s.slot k := by
  have := s.depth_le
  unfold pop? at h
  split at h
  · cases h
    refine ⟨by dsimp only; omega, ?_, fun _ => rfl⟩
    rw [slot, dif_pos (by omega)]
  · cases h

end CallStack

/-! ### Instructions -/

namespace Machine

@[simp] theorem pc_goOn (m : Machine) (r : Registers) : (m.goOn r).registers.pc = r.pc + 2 := rfl

@[simp] theorem stack_goOn (m : Machine) (r : Registers) : (m.goOn r).registers.stack = r.stack := rfl

/-- How an instruction moves the program counter and the call stack. -/
def Moves (m : Machine) (after : Registers) : Instruction → Prop
  | .ret => ∃ address,
      m.registers.stack.pop? = some (address, after.stack) ∧ after.pc = address + 2
  | .jump target => after.stack = m.registers.stack ∧ after.pc = target
  | .call target =>
      m.registers.stack.push? m.registers.pc = some after.stack ∧ after.pc = target
  | .skip condition => after.stack = m.registers.stack ∧ ∃ passes,
      m.holds condition = .ok passes ∧ after.pc = m.registers.pc + if passes then 4 else 2
  | .waitForKey => after.stack = m.registers.stack ∧
      after.pc = if m.keypad.anyDown then m.registers.pc + 2 else m.registers.pc
  | _ => after.stack = m.registers.stack ∧ after.pc = m.registers.pc + 2

theorem moves_of_execute {m m' : Machine} {i : Instruction} {sent : List Signal}
    (h : m.execute i = .ok (m', sent)) : m.Moves m'.registers i := by
  cases i with
  | ret =>
    rw [execute] at h
    cases hpop : m.registers.stack.pop? with
    | none => rw [hpop] at h; cases h
    | some top =>
      rw [hpop] at h
      cases h
      exact ⟨top.1, hpop, pc_goOn m _⟩
  | call target =>
    rw [execute] at h
    cases hpush : m.registers.stack.push? m.registers.pc with
    | none => rw [hpush] at h; cases h
    | some stack =>
      rw [hpush] at h
      cases h
      exact ⟨hpush, rfl⟩
  | skip condition =>
    rw [execute] at h
    cases hholds : m.holds condition with
    | error cause => rw [hholds] at h; cases h
    | ok passes =>
      rw [hholds] at h
      cases h
      refine ⟨rfl, passes, hholds, ?_⟩
      cases passes <;> rfl
  | waitForKey =>
    rw [execute] at h
    cases h
    unfold Moves
    cases m.keypad.anyDown <;> exact ⟨rfl, rfl⟩
  | drawSprite _ _ _ | storeDecimal _ | storeRegisters _ =>
    rw [execute] at h
    split at h
    · cases h
      exact ⟨rfl, rfl⟩
    · cases h
  | loadRegisters last =>
    rw [execute] at h
    split at h
    · cases h
      exact ⟨by simp, by simp⟩
    · cases h
  | alu op x y =>
    rw [execute] at h
    cases h
    exact ⟨by simp, by simp⟩
  | _ =>
    rw [execute] at h
    cases h
    exact ⟨rfl, rfl⟩

/-! ### Steps -/

/-- A fetch that succeeds finds the word at the program counter, which is in the memory. -/
theorem of_fetch_ok {m : Machine} {word : Word} (h : m.fetch = .ok word) :
    m.registers.pc.toNat ≤ 0xFFE ∧ word = m.nextWord := by
  rw [fetch_eq] at h
  cases hrange : Memory.rangeFault? m.registers.pc.toNat 2 with
  | some cause => rw [hrange] at h; cases h
  | none =>
    rw [hrange] at h
    cases h
    rw [Memory.rangeFault?_eq_none_iff] at hrange
    exact ⟨by omega, rfl⟩

/-- The word at a program counter in the memory is found. -/
theorem fetch_of_inside {m : Machine} {word : Word} (inside : m.registers.pc.toNat ≤ 0xFFE)
    (found : m.nextWord = word) : m.fetch = .ok word := by
  have fine := (Memory.rangeFault?_eq_none_iff m.registers.pc.toNat 2).mpr (.inr (by omega))
  rw [fetch_eq, fine, found]

/-- A word that is carried out spells an instruction. -/
theorem of_executeWord_ok {m m' : Machine} {word : Word} {sent : List Signal}
    (h : m.executeWord word = .ok (m', sent)) :
    ∃ i, Instruction.spells word.toNat i ∧ m.execute i = .ok (m', sent) := by
  unfold executeWord at h
  cases hword : Instruction.ofWord? word with
  | none => rw [hword] at h; cases h
  | some i =>
    rw [hword] at h
    exact ⟨i, Instruction.spells_of_ofWord? hword, h⟩

/-- What a step that succeeds has done: it has found a word and carried out what that spells, and then
the timers have counted down. -/
theorem of_step_ok {m : Machine} {p : Progress} (h : m.step = .ok p) :
    m.registers.pc.toNat ≤ 0xFFE ∧ p.word = m.nextWord ∧ ∃ i m' sent,
      i.spells p.word.toNat ∧ m.execute i = .ok (m', sent) ∧
      p.machine = { m' with timers := m'.timers.tick, count := m'.count + 1 } ∧
      p.signals = sent ++ Timers.notice m'.timers m'.timers.tick := by
  obtain ⟨m', sent, fetched, executed, machine, signals⟩ := parts_of_step h
  obtain ⟨bound, word⟩ := of_fetch_ok fetched
  obtain ⟨i, spells, executed⟩ := of_executeWord_ok executed
  rw [m'.tick_eq] at machine signals
  exact ⟨bound, word, i, m', sent, spells, executed, machine, signals⟩

/-- The machine after a step.  A step that fails leaves it as it is. -/
def next (m : Machine) : Machine :=
  match m.step with
  | .ok p => p.machine
  | .error _ => m

theorem next_of_run {work after : Work} {word : Word} (ran : Processor.step.run work = .ok word after) :
    after.machine = work.machine.next := by
  obtain ⟨p, stepped, -, rfl⟩ := Processor.step_run_eq_ok_iff.mp ran
  rw [next, stepped]

theorem moves_of_step {m : Machine} {p : Progress} (h : m.step = .ok p) :
    ∃ i, Instruction.spells p.word.toNat i ∧ m.Moves p.machine.registers i := by
  obtain ⟨-, -, i, m', sent, spells, executed, machine, -⟩ := of_step_ok h
  have moves := moves_of_execute executed
  refine ⟨i, spells, ?_⟩
  rw [machine]
  exact moves

/-! ### Words -/

/-- The word spells a skip, and the condition of that holds. -/
def Skips (m : Machine) (w : Nat) : Prop :=
  let vx := m.v (Register.ofNat (w / 256))
  let vy := m.v (Register.ofNat (w / 16))
  w / 4096 = 3 ∧ vx.toNat = w % 256 ∨
  w / 4096 = 4 ∧ vx.toNat ≠ w % 256 ∨
  w / 4096 = 5 ∧ vx = vy ∨
  w / 4096 = 9 ∧ vx ≠ vy ∨
  (w / 4096 = 0xE ∧ w % 256 = 0x9E) ∧ m.keypad.isDown (Key.ofNat vx.toNat) = true ∨
  (w / 4096 = 0xE ∧ w % 256 = 0xA1) ∧ m.keypad.isDown (Key.ofNat vx.toNat) = false

instance (m : Machine) (w : Nat) : Decidable (m.Skips w) := inferInstanceAs (Decidable (_ ∨ _))

/-- The address that a word leads to: that of a jump or a call, the one behind the call that a return
goes back to, the word itself while it waits for a key, or one of the next two instructions. -/
def nextPc (m : Machine) (w : Nat) : Nat :=
  let r := m.registers
  if w / 4096 = 1 ∨ w / 4096 = 2 then w % 4096
  else if w / 4096 = 0 ∧ w % 256 = 0xEE then
    ((r.stack.slot (r.stack.depth - 1)).toNat + 2) % 0x10000
  else if (w / 4096 = 0xF ∧ w % 256 = 0x0A) ∧ m.keypad.anyDown = false then r.pc.toNat
  else if m.Skips w then r.pc.toNat + 4
  else r.pc.toNat + 2

/-- By how much a word changes the number of open calls. -/
def depthChange (w : Nat) : Int :=
  if w / 4096 = 2 then 1
  else if w / 4096 = 0 ∧ w % 256 = 0xEE then -1
  else 0

section

variable {m : Machine} {w : Nat}

/-- A register that names a key has the number of that key for a value. -/
theorem toNat_of_keyIn {x : Register} {key : Key} (h : m.keyIn x = .ok key) :
    (m.v x).toNat = key.val := by
  unfold keyIn Key.ofInt? at h
  by_cases inside : (m.v x).toNat < 16
  · rw [dif_pos (by omega)] at h
    cases h
    rfl
  · rw [dif_neg (by omega)] at h
    cases h

theorem keyIn_eq_ok {x : Register} {key : Key} (h : m.keyIn x = .ok key) :
    key = Key.ofNat (m.v x).toNat := by
  rw [toNat_of_keyIn h]
  exact Fin.ext (Nat.mod_eq_of_lt key.isLt).symm

/-- Whether a word skips can be told from the word and the machine before it. -/
theorem skips_iff_of_spells {condition : Condition} {passes : Bool}
    (spells : Instruction.spellsSkip w condition) (h : m.holds condition = .ok passes) :
    m.Skips w ↔ passes = true := by
  have register {x : Register} {k : Nat} (e : x.val = k % 16) : Register.ofNat k = x :=
    Fin.ext e.symm
  unfold Skips
  cases condition with
  | isByte x value | isNotByte x value =>
    cases h
    obtain ⟨group, hx, hvalue⟩ := spells
    simp [group, register hx, ← hvalue, BitVec.toNat_inj]
  | same x y | notSame x y =>
    cases h
    obtain ⟨group, hx, hy⟩ := spells
    simp [group, register hx, register hy]
  | keyDown x | keyUp x =>
    obtain ⟨⟨group, low⟩, hx⟩ := spells
    rw [holds] at h
    cases found : m.keyIn x with
    | error cause => rw [found] at h; cases h
    | ok key =>
      rw [found] at h
      cases h
      simp [group, low, register hx, keyIn_eq_ok found]

/-- A skip passes over one word. -/
theorem nextPc_of_spellsSkip {condition : Condition} (spells : Instruction.spellsSkip w condition) :
    m.nextPc w = if m.Skips w then m.registers.pc.toNat + 4 else m.registers.pc.toNat + 2 := by
  unfold nextPc
  cases condition with
  | keyDown x | keyUp x =>
    obtain ⟨⟨group, -⟩, -⟩ := spells
    simp [group]
  | _ =>
    obtain ⟨group, -⟩ := spells
    simp [group]

theorem pc_of_moves {after : Registers} {i : Instruction} (inside : m.registers.pc.toNat ≤ 0xFFE)
    (spells : i.spells w) (moves : m.Moves after i) : after.pc.toNat = m.nextPc w := by
  have next : (m.registers.pc + 2).toNat = m.registers.pc.toNat + 2 := by bv_omega
  cases i with
  | ret =>
    obtain ⟨address, popped, pc⟩ := moves
    obtain ⟨group, low⟩ := spells
    obtain ⟨-, rfl, -⟩ := CallStack.of_pop? popped
    simp [nextPc, group, low, pc, BitVec.toNat_add]
  | jump target | call target =>
    obtain ⟨-, pc⟩ := moves
    obtain ⟨group, htarget⟩ := spells
    simp [nextPc, group, pc, htarget]
  | skip condition =>
    obtain ⟨-, passes, holds, pc⟩ := moves
    have skips := skips_iff_of_spells spells holds
    rw [nextPc_of_spellsSkip spells, pc]
    cases passes with
    | true =>
      rw [if_pos rfl, if_pos (skips.mpr rfl)]
      bv_omega
    | false =>
      rw [if_neg Bool.false_ne_true, if_neg (mt skips.mp Bool.false_ne_true)]
      exact next
  | waitForKey =>
    obtain ⟨-, pc⟩ := moves
    obtain ⟨group, low⟩ := spells
    rw [pc]
    cases down : m.keypad.anyDown with
    | true =>
      rw [if_pos rfl, next]
      simp [nextPc, Skips, group, low, down]
    | false => simp [nextPc, group, low, down]
  | _ =>
    -- The word is none of those that `nextPc` tells apart.
    have pc : after.pc = m.registers.pc + 2 := moves.2
    rw [pc, next]
    simp only [Instruction.spells] at spells
    simp [nextPc, Skips, spells]

/-- A call writes one slot, and all others write none. -/
theorem stack_of_moves {after : Registers} {i : Instruction} (spells : i.spells w)
    (moves : m.Moves after i) :
    (after.stack.depth : Int) = m.registers.stack.depth + depthChange w ∧
      ∀ k, after.stack.slot k =
        if w / 4096 = 2 ∧ k = m.registers.stack.depth then m.registers.pc
        else m.registers.stack.slot k := by
  cases i with
  | ret =>
    obtain ⟨address, popped, -⟩ := moves
    obtain ⟨group, low⟩ := spells
    obtain ⟨depth, -, slots⟩ := CallStack.of_pop? popped
    refine ⟨?_, by simp [group, slots]⟩
    rw [depthChange, if_neg (by omega), if_pos ⟨group, low⟩]
    omega
  | call target =>
    obtain ⟨pushed, -⟩ := moves
    obtain ⟨group, -⟩ := spells
    obtain ⟨depth, slots⟩ := CallStack.of_push? pushed
    simp [depthChange, group, slots, depth]
  | skip condition =>
    have same : after.stack = m.registers.stack := moves.1
    rw [same]
    cases condition with
    | keyDown x | keyUp x =>
      obtain ⟨⟨group, -⟩, -⟩ := spells
      simp [depthChange, group]
    | _ =>
      obtain ⟨group, -⟩ := spells
      simp [depthChange, group]
  | _ =>
    have same : after.stack = m.registers.stack := moves.1
    rw [same]
    simp only [Instruction.spells] at spells
    simp [depthChange, spells]

end

end Machine

/-! ### The control flow of a step -/

namespace Processor

/-- A step that succeeds goes on where its word leads to, opens a call or closes one by its word, and
writes no slot of the call stack but that a call puts its own address into the first free one.  All of
this hangs on the machine as it was before the step. -/
theorem pc_and_stack_of_step {m : Machine} {sent : List Signal} {word : Word} {work : Work}
    (h : step.run ⟨m, sent⟩ = .ok word work) :
    let w := word.toNat
    let before := m.registers
    let after := work.machine.registers
    m.fetch = .ok word ∧
      after.pc.toNat = m.nextPc w ∧
      (after.stack.depth : Int) = before.stack.depth + Machine.depthChange w ∧
      ∀ k, after.stack.slot k =
        if w / 4096 = 2 ∧ k = before.stack.depth then before.pc else before.stack.slot k := by
  intro w before after
  obtain ⟨p, stepped, rfl, rfl⟩ := step_run_eq_ok_iff.mp h
  obtain ⟨_, _, fetched, -⟩ := Machine.parts_of_step stepped
  obtain ⟨inside, -⟩ := Machine.of_fetch_ok fetched
  obtain ⟨i, spells, moves⟩ := Machine.moves_of_step stepped
  exact ⟨fetched, Machine.pc_of_moves inside spells moves, Machine.stack_of_moves spells moves⟩

/-- A return to a call whose address is the last there is goes on behind it at the first but one. -/
theorem pc_and_stack_of_step_return :
    let memory := Memory.initial.store 0x200 [0x00, 0xEE]
    let m := { Machine.initial (.listed [] 0) with
      memory, registers := { Registers.initial with stack := CallStack.ofList [0x300, 0xFFFF] } }
    ∃ work, step.run ⟨m, []⟩ = .ok 0x00EE work ∧
      work.machine.registers.pc.toNat = 1 ∧
      work.machine.registers.stack.depth = 1 ∧
      work.machine.registers.stack.slot 1 = 0xFFFF := by
  intro memory m
  have fine : m.fault? = none ∧ m.nextWord = 0x00EE := by decide +kernel
  obtain ⟨p, stepped⟩ := faultOf_eq_none_iff.mp (m.faultOf_step.trans fine.1)
  obtain ⟨-, word, -⟩ := Machine.of_step_ok stepped
  have ran : step.run ⟨m, []⟩ = .ok 0x00EE ⟨p.machine, [] ++ p.signals⟩ :=
    step_run_eq_ok_iff.mpr ⟨p, stepped, word.trans fine.2, rfl⟩
  obtain ⟨-, pc, depth, slots⟩ := pc_and_stack_of_step ran
  refine ⟨_, ran, pc.trans (by decide +kernel), ?_, (slots 1).trans (by decide +kernel)⟩
  have one : (m.registers.stack.depth : Int) + Machine.depthChange 0x00EE = 1 := by decide +kernel
  exact Int.ofNat.inj (depth.trans one)

end Processor

end Chip8
