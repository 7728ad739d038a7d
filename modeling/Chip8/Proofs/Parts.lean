import Chip8.Proofs.Transition

/-!
# What an instruction changes

Most instructions write registers or the memory.  The screen, the timers and the random source are each
written by a few, and the keypad and the count by none.  `Machine.Parts` says what becomes of each of
these parts and what is sent, and `Machine.parts_of_execute` proves that an instruction which is carried
out keeps to it.
-/

namespace Chip8

/-- A block that can be read is the cells from its start on. -/
theorem Memory.slice_of_readBlock {m : Memory} {address length : Nat} {bytes : List Byte}
    (h : m.readBlock address length = .ok bytes) : bytes = m.slice address length := by
  unfold readBlock at h
  split at h
  · next none =>
    cases h
    rw [show length = 0 by omega]
    rfl
  · cases checked : checkRange address length with
    | error cause => rw [checked] at h; cases h
    | ok inside =>
      rw [checked] at h
      cases h
      rfl

/-- A block write that succeeds is a store, also of an empty block, and a block that is not empty has its
place in the memory. -/
theorem Memory.of_writeBlock {m memory : Memory} {address : Int} {bytes : List Byte}
    (h : m.writeBlock address bytes = .ok memory) :
    memory = m.store address.toNat bytes ∧
      (0 < bytes.length → checkRange address bytes.length = .ok ()) := by
  unfold writeBlock at h
  cases bytes with
  | nil =>
    cases h
    exact ⟨rfl, fun some => absurd some (Nat.lt_irrefl 0)⟩
  | cons b bs =>
    rw [if_neg (by simp)] at h
    cases checked : checkRange address (b :: bs).length with
    | error cause => rw [checked] at h; cases h
    | ok inside =>
      rw [checked] at h
      cases h
      exact ⟨rfl, fun _ => rfl⟩

namespace Machine

variable (m : Machine)

/-- The screen after an instruction. -/
def screenAfter : Instruction → Screen
  | .clearScreen => m.screen.clear
  | .drawSprite x y height =>
    (m.screen.drawSprite (m.v x).toNat (m.v y).toNat
      (m.memory.slice m.registers.i.toNat height.val)).2
  | _ => m.screen

/-- The timers after an instruction, before they count down. -/
def timersAfter : Instruction → Timers
  | .setDelay x => { m.timers with delay := m.v x }
  | .setSound x => { m.timers with sound := m.v x }
  | _ => m.timers

/-- The random source after an instruction. -/
def sourceAfter : Instruction → Random.Source
  | .random _ _ => m.source.draw.2
  | _ => m.source

/-- What an instruction sends: a draw, and what is due for its write of the timers. -/
def sentBy (i : Instruction) : List Signal :=
  (match i with
    | .random _ _ => [.draw]
    | _ => []) ++ Timers.notice m.timers (m.timersAfter i)

/-- The parts of the machine that few instructions change, after one of them. -/
structure Parts (i : Instruction) (after : Machine) (sent : List Signal) : Prop where
  screen : after.screen = m.screenAfter i
  timers : after.timers = m.timersAfter i
  source : after.source = m.sourceAfter i
  sent : sent = m.sentBy i
  keypad : after.keypad = m.keypad
  count : after.count = m.count

variable {m}

/-- Each instruction changes the parts that are said to be its own. -/
theorem parts_of_execute {m' : Machine} {i : Instruction} {sent : List Signal}
    (h : m.execute i = .ok (m', sent)) : m.Parts i m' sent := by
  -- Without a write of the timers nothing is due.
  have quiet (drawn : List Signal) : drawn = drawn ++ Timers.notice m.timers m.timers := by
    rw [Timers.notice, if_pos rfl, List.append_nil]
  cases i with
  | setDelay x =>
    have due := m.timers.setDelay_eq (m.v x)
    cases h
    exact ⟨rfl, rfl, rfl, congrArg Prod.snd due, rfl, rfl⟩
  | setSound x =>
    have due := m.timers.setSound_eq (m.v x)
    cases h
    exact ⟨rfl, rfl, rfl, congrArg Prod.snd due, rfl, rfl⟩
  | waitForKey =>
    cases h
    cases m.keypad.anyDown <;> exact ⟨rfl, rfl, rfl, quiet _, rfl, rfl⟩
  | drawSprite x y height =>
    rw [execute] at h
    cases read : m.memory.readBlock m.registers.i.toNat height.val with
    | error cause => rw [read] at h; cases h
    | ok sprite =>
      rw [read] at h
      cases h
      refine ⟨?_, rfl, rfl, quiet [], rfl, rfl⟩
      rw [Memory.slice_of_readBlock read]
      rfl
  | loadRegisters last =>
    rw [execute] at h
    split at h
    · cases h
      -- Which values are loaded plays no part.
      generalize m.registers.load _ = registers
      exact ⟨rfl, rfl, rfl, quiet [], rfl, rfl⟩
    · cases h
  | ret | call _ | skip _ | storeDecimal _ | storeRegisters _ =>
    rw [execute] at h
    split at h
    · cases h
      exact ⟨rfl, rfl, rfl, quiet [], rfl, rfl⟩
    · cases h
  | random x mask =>
    cases h
    exact ⟨rfl, rfl, rfl, quiet [.draw], rfl, rfl⟩
  | _ =>
    cases h
    exact ⟨rfl, rfl, rfl, quiet [], rfl, rfl⟩

/-! ### Keys and screen exchanged -/

/-- The machine between another keypad and another screen. -/
def facing (m : Machine) (keypad : Keypad) (screen : Screen) : Machine := { m with keypad, screen }

section

variable (m : Machine) (keypad : Keypad) (screen : Screen)

@[simp] theorem facing_memory : (m.facing keypad screen).memory = m.memory := rfl

@[simp] theorem facing_registers : (m.facing keypad screen).registers = m.registers := rfl

@[simp] theorem facing_keypad : (m.facing keypad screen).keypad = keypad := rfl

@[simp] theorem facing_screen : (m.facing keypad screen).screen = screen := rfl

@[simp] theorem facing_v (x : Register) : (m.facing keypad screen).v x = m.v x := rfl

end

/-- An instruction does the same with another keypad and another screen if the keys give the same answer
and sprites erase as much. -/
theorem execute_facing {i : Instruction} {keypad : Keypad} {screen : Screen}
    (holds : ∀ condition, i = .skip condition →
      (m.facing keypad screen).holds condition = m.holds condition)
    (waits : i = .waitForKey → keypad.anyDown = m.keypad.anyDown)
    (erases : ∀ x y sprite, (screen.drawSprite x y sprite).1 = (m.screen.drawSprite x y sprite).1) :
    (m.facing keypad screen).execute i = (m.execute i).map fun (after, sent) =>
      (after.facing keypad ((m.facing keypad screen).screenAfter i), sent) := by
  cases i with
  | skip condition =>
    simp only [execute, holds condition rfl]
    cases m.holds condition <;> rfl
  | waitForKey =>
    simp only [execute, facing_keypad, waits rfl]
    cases m.keypad.anyDown <;> rfl
  | drawSprite x y height =>
    simp only [execute, screenAfter, facing_memory, facing_registers, facing_screen, facing_v]
    cases read : m.memory.readBlock m.registers.i.toNat height.val with
    | error cause => rfl
    | ok sprite =>
      simp only [Except.map, ← Memory.slice_of_readBlock read, ← erases]
      rfl
  | ret =>
    simp only [execute, facing_registers]
    cases m.registers.stack.pop? <;> rfl
  | call target =>
    simp only [execute, facing_registers]
    cases m.registers.stack.push? m.registers.pc <;> rfl
  | storeDecimal x =>
    simp only [execute, facing_memory, facing_registers, facing_v]
    cases m.memory.writeBlock m.registers.i.toNat (decimalDigits (m.v x)) <;> rfl
  | storeRegisters last =>
    simp only [execute, facing_memory, facing_registers]
    cases m.memory.writeBlock m.registers.i.toNat (m.registers.upTo last) <;> rfl
  | loadRegisters last =>
    simp only [execute, facing_memory, facing_registers]
    generalize m.memory.readBlock m.registers.i.toNat (last.val + 1) = block
    cases block with
    | error cause => rfl
    | ok bytes =>
      generalize m.registers.load bytes = registers
      rfl
  | _ => rfl

end Machine

end Chip8
