import Chip8.Proofs.Decoding
import Chip8.Proofs.Transition

/-!
# Which faults a step meets

`Machine.fault?` says, before a step is taken, with which fault it will end, if with any.  It asks its
questions in a fixed order: whether there is a word at the program counter, whether the word spells an
instruction, and whether that instruction finds the call stack, the key and the memory cells that it
needs.  The word is looked at as a number, and nothing is carried out.

`Machine.faultOf_step` proves that steps keep to this.  Nothing that `Machine.fault?` asks about is
changed by a key going up or down.
-/

namespace Chip8

/-- The fault that a result is, if it is one. -/
def faultOf {α : Type} : Except Fault α → Option Fault
  | .ok _ => none
  | .error cause => some cause

theorem faultOf_eq_some_iff {α : Type} {result : Except Fault α} {cause : Fault} :
    faultOf result = some cause ↔ result = .error cause := by
  cases result <;> simp [faultOf]

theorem faultOf_eq_none_iff {α : Type} {result : Except Fault α} :
    faultOf result = none ↔ ∃ a, result = .ok a := by
  cases result <;> simp [faultOf]

/-! ### Accesses to memory -/

namespace Memory

/-- The fault of an access to `length` cells from `address` on.  An access to none of them is fine
anywhere. -/
def rangeFault? (address length : Nat) : Option Fault :=
  if length = 0 then none
  else if 0x1000 ≤ address then some (.outOfRange .memory address 0x1000)
  else if 0x1000 ≤ address + length - 1 then some (.outOfRange .memory (address + length - 1 : Nat) 0x1000)
  else none

/-- An empty range is nowhere out of range. -/
theorem rangeFault?_eq_none_iff (address length : Nat) :
    rangeFault? address length = none ↔ length = 0 ∨ address + length ≤ 0x1000 := by
  unfold rangeFault?
  constructor
  · intro h
    split at h
    · omega
    · split at h
      · cases h
      · split at h
        · cases h
        · omega
  · rintro (h | h)
    · rw [if_pos h]
    · by_cases e : length = 0
      · rw [if_pos e]
      · rw [if_neg e, if_neg (by omega), if_neg (by omega)]

/-- The fault names the first address of the range if that lies outside, else the last. -/
theorem faultOf_checkRange (address length : Nat) (some : 0 < length) :
    faultOf (checkRange address length) = rangeFault? address length := by
  unfold checkRange rangeFault? memorySize
  rw [if_neg (by omega : ¬ length = 0)]
  by_cases h₁ : 0x1000 ≤ address
  · rw [if_pos (by omega), if_pos h₁]
    rfl
  · rw [if_neg (by omega), if_neg h₁]
    by_cases h₂ : 0x1000 ≤ address + length - 1
    · rw [if_pos (by omega), if_pos h₂, show (address : Int) + length - 1 = (address + length - 1 : Nat) by omega]
      rfl
    · rw [if_neg (by omega), if_neg h₂]
      rfl

/-- What comes after a check adds no fault. -/
theorem faultOf_check_bind {α : Type} (check : Except Fault Unit) (a : α) :
    faultOf (check >>= fun _ => pure a) = faultOf check := by
  cases check <;> rfl

theorem faultOf_readBlock (m : Memory) (address length : Nat) :
    faultOf (m.readBlock address length) = rangeFault? address length := by
  unfold readBlock
  by_cases h : length = 0
  · rw [if_pos (by omega), rangeFault?, if_pos h]
    rfl
  · rw [if_neg (by omega), faultOf_check_bind]
    exact faultOf_checkRange address length (by omega)

theorem faultOf_writeBlock (m : Memory) (address : Nat) (bytes : List Byte) :
    faultOf (m.writeBlock address bytes) = rangeFault? address bytes.length := by
  unfold writeBlock
  cases bytes with
  | nil => rfl
  | cons b bs =>
    rw [if_neg (by simp), faultOf_check_bind]
    exact faultOf_checkRange address (b :: bs).length (by simp)

end Memory

/-! ### Instructions -/

namespace Machine

/-- The fault of a look-up of the key that a register names. -/
def keyFault? (m : Machine) (x : Register) : Option Fault :=
  if 16 ≤ (m.v x).toNat then some (.outOfRange .keypad (m.v x).toNat 16) else none

/-- The fault that an instruction meets. -/
def instructionFault? (m : Machine) : Instruction → Option Fault
  | .ret =>
    if m.registers.stack.depth = 0 then some (.stackUnderflow m.registers.pc.toNat) else none
  | .call _ =>
    if m.registers.stack.depth = 16 then some (.stackOverflow m.registers.pc.toNat 16) else none
  | .skip (.keyDown x) | .skip (.keyUp x) => m.keyFault? x
  | .drawSprite _ _ height => Memory.rangeFault? m.registers.i.toNat height.val
  | .storeDecimal _ => Memory.rangeFault? m.registers.i.toNat 3
  | .storeRegisters last | .loadRegisters last =>
    Memory.rangeFault? m.registers.i.toNat (last.val + 1)
  | _ => none

/-- A value above fifteen names no key. -/
theorem faultOf_keyIn (m : Machine) (x : Register) : faultOf (m.keyIn x) = m.keyFault? x := by
  unfold keyIn Key.ofInt? keyFault? keyCount
  by_cases h : 16 ≤ (m.v x).toNat
  · rw [dif_neg (by omega), if_pos h]
    rfl
  · rw [dif_pos (by omega), if_neg h]
    rfl

/-- Only the conditions about keys can fail. -/
theorem faultOf_holds (m : Machine) (condition : Condition) :
    faultOf (m.holds condition) = m.instructionFault? (.skip condition) := by
  cases condition with
  | keyDown x | keyUp x =>
    rw [instructionFault?, ← faultOf_keyIn, holds]
    generalize m.keyIn x = key
    cases key <;> rfl
  | _ => rfl

theorem faultOf_execute (m : Machine) (i : Instruction) :
    faultOf (m.execute i) = m.instructionFault? i := by
  cases i with
  | ret =>
    have empty := m.registers.stack.pop?_eq_none_iff
    rw [execute, instructionFault?]
    cases h : m.registers.stack.pop? with
    | none => rw [if_pos (empty.mp h)]; rfl
    | some top =>
      have : m.registers.stack.depth ≠ 0 := fun e => by simp [empty.mpr e] at h
      rw [if_neg this]
      rfl
  | call target =>
    have full := m.registers.stack.push?_eq_none_iff m.registers.pc
    rw [execute, instructionFault?]
    cases h : m.registers.stack.push? m.registers.pc with
    | none => rw [if_pos (full.mp h)]; rfl
    | some stack =>
      have : m.registers.stack.depth ≠ 16 := fun e => by simp [full.mpr e] at h
      rw [if_neg this]
      rfl
  | skip condition =>
    rw [← faultOf_holds, execute]
    cases m.holds condition <;> rfl
  | drawSprite x y height =>
    rw [instructionFault?, ← m.memory.faultOf_readBlock, execute]
    cases m.memory.readBlock m.registers.i.toNat height.val <;> rfl
  | storeDecimal x =>
    have h := m.memory.faultOf_writeBlock m.registers.i.toNat (decimalDigits (m.v x))
    rw [instructionFault?, show 3 = (decimalDigits (m.v x)).length from rfl, ← h, execute]
    cases m.memory.writeBlock m.registers.i.toNat (decimalDigits (m.v x)) <;> rfl
  | storeRegisters last =>
    have h := m.memory.faultOf_writeBlock m.registers.i.toNat (m.registers.upTo last)
    rw [instructionFault?, ← m.registers.length_upTo last, ← h, execute]
    cases m.memory.writeBlock m.registers.i.toNat (m.registers.upTo last) <;> rfl
  | loadRegisters last =>
    have h := m.memory.faultOf_readBlock m.registers.i.toNat (last.val + 1)
    rw [instructionFault?, ← h, execute]
    push_cast
    cases m.memory.readBlock m.registers.i.toNat (last.val + 1) <;> rfl
  | _ => rfl

/-! ### Words -/

/-- The number of memory cells, from the index on, that the instruction in a word reads or writes. -/
def cellsTouched (w : Nat) : Nat :=
  if w / 4096 = 0xD then w % 16
  else if w / 4096 = 0xF ∧ w % 256 = 0x33 then 3
  else if w / 4096 = 0xF ∧ w % 256 ∈ [0x55, 0x65] then w / 256 % 16 + 1
  else 0

/-- The fault that the instruction in a word meets. -/
def wordFault? (m : Machine) (w : Nat) : Option Fault :=
  if ¬ Instruction.InSet w then some (.invalidOpcode w (some m.registers.pc.toNat))
  else if w / 4096 = 2 ∧ m.registers.stack.depth = 16 then
    some (.stackOverflow m.registers.pc.toNat 16)
  else if (w / 4096 = 0 ∧ w % 256 = 0xEE) ∧ m.registers.stack.depth = 0 then
    some (.stackUnderflow m.registers.pc.toNat)
  else if w / 4096 = 0xE ∧ 16 ≤ (m.v (Register.ofNat (w / 256))).toNat then
    some (.outOfRange .keypad (m.v (Register.ofNat (w / 256))).toNat 16)
  else Memory.rangeFault? m.registers.i.toNat (cellsTouched w)

/-- The fault that a step meets. -/
def fault? (m : Machine) : Option Fault :=
  let pc := m.registers.pc.toNat
  if 0x1000 ≤ pc then some (.outOfRange .memory pc 0x1000)
  else if pc = 0xFFF then some (.outOfRange .memory 0x1000 0x1000)
  else m.wordFault? (256 * (m.memory.get pc).toNat + (m.memory.get (pc + 1)).toNat)

/-- The fault of a word of the instruction set is that of its instruction. -/
theorem wordFault?_of_spells (m : Machine) {w : Nat} {i : Instruction} (inSet : Instruction.InSet w)
    (h : i.spells w) : m.wordFault? w = m.instructionFault? i := by
  have register {x : Register} (e : x.val = w / 256 % 16) : Register.ofNat (w / 256) = x :=
    Fin.ext e.symm
  rw [wordFault?, if_neg (not_not_intro inSet)]
  cases i with
  | skip condition =>
    cases condition with
    | keyDown x | keyUp x =>
      obtain ⟨⟨hg, hn⟩, hx⟩ := h
      simp [instructionFault?, keyFault?, cellsTouched, Memory.rangeFault?, hg, hn, register hx]
    | _ =>
      obtain ⟨hg, -⟩ := h
      simp [instructionFault?, cellsTouched, Memory.rangeFault?, hg]
  | _ =>
    simp only [Instruction.spells] at h
    simp [instructionFault?, cellsTouched, Memory.rangeFault?, h]

theorem faultOf_executeWord (m : Machine) (w : Word) :
    faultOf (m.executeWord w) = m.wordFault? w.toNat := by
  have isSome := Instruction.isSome_ofWord?_iff w
  unfold executeWord
  cases h : Instruction.ofWord? w with
  | none =>
    have outside : ¬ Instruction.InSet w.toNat := fun inSet => by simp [h, inSet] at isSome
    rw [wordFault?, if_pos outside]
    rfl
  | some i =>
    rw [h] at isSome
    rw [m.wordFault?_of_spells (isSome.mp rfl) (Instruction.spells_of_ofWord? h)]
    exact m.faultOf_execute i

/-! ### Steps -/

/-- The word at the program counter, if the program counter is in the memory. -/
def nextWord (m : Machine) : Word :=
  Word.ofBytes (m.memory.get m.registers.pc.toNat) (m.memory.get (m.registers.pc.toNat + 1))

/-- Fetching fails only where the word does not lie in the memory. -/
theorem fetch_eq (m : Machine) :
    m.fetch =
      match Memory.rangeFault? m.registers.pc.toNat 2 with
      | some cause => .error cause
      | none => .ok m.nextWord := by
  rw [← Memory.faultOf_checkRange _ 2 (by omega)]
  show (Memory.checkRange m.registers.pc.toNat 2 >>= _) = _
  push_cast
  cases Memory.checkRange m.registers.pc.toNat 2 <;> rfl

/-- A step that can fetch fails by the word that it fetches. -/
theorem fault?_eq (m : Machine) :
    m.fault? =
      (Memory.rangeFault? m.registers.pc.toNat 2).or (m.wordFault? m.nextWord.toNat) := by
  rw [nextWord, Word.toNat_ofBytes]
  unfold fault? Memory.rangeFault?
  rw [if_neg (by omega : ¬ 2 = 0)]
  by_cases h₁ : 0x1000 ≤ m.registers.pc.toNat
  · rw [if_pos h₁, if_pos h₁]
    rfl
  · rw [if_neg h₁, if_neg h₁]
    by_cases h₂ : m.registers.pc.toNat = 0xFFF
    · rw [if_pos h₂, if_pos (by omega), h₂]
      rfl
    · rw [if_neg h₂, if_neg (by omega)]
      rfl

/-- A step meets the fault that was to be expected, and no other. -/
theorem faultOf_step (m : Machine) : faultOf m.step = m.fault? := by
  rw [fault?_eq, step, fetch_eq]
  cases Memory.rangeFault? m.registers.pc.toNat 2 with
  | some cause => rfl
  | none =>
    rw [Option.none_or, ← faultOf_executeWord]
    dsimp only
    cases m.executeWord m.nextWord <;> rfl

end Machine

/-- A step fails with a fault exactly if that is the one to be expected, and succeeds exactly if there
is none. -/
theorem Processor.step_fails_iff (m : Machine) (sent : List Signal) :
    (∀ cause, (∃ work, step.run ⟨m, sent⟩ = .error cause work) ↔ m.fault? = some cause) ∧
      ((∃ word work, step.run ⟨m, sent⟩ = .ok word work) ↔ m.fault? = none) := by
  rw [step_run, ← m.faultOf_step]
  cases m.step with
  | error cause => simp [faultOf]
  | ok p => simp [faultOf]

end Chip8
