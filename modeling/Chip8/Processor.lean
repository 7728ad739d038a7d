import Chip8.Machine

/-!
# The processor

One step of the machine: fetch a word, read it as an instruction, carry it out, let the timers count
down.

An instruction is carried out one effect after the other: a register is read, a range is checked, a
row of the screen is flipped, the program counter moves on.  A fault may come between any two effects,
and it leaves the machine as the effects before it made it.  That an instruction which faults has
changed nothing is therefore no matter of types, but hangs on the order of the effects in every
single instruction.
-/

namespace Chip8

/-- The machine at work. -/
structure Work where
  machine : Machine
  /-- The signals sent so far, in order. -/
  sent : List Signal
  deriving DecidableEq, Repr

/-- Something done to the machine at work.  A fault breaks it off and leaves things as they are then. -/
abbrev Effect := EStateM Fault Work

namespace Processor

/-! ### Single effects -/

/-- A part of the machine as it is now. -/
def look {α : Type} (part : Machine → α) : Effect α := return part (← get).machine

/-- Changes the machine. -/
def change (f : Machine → Machine) : Effect Unit :=
  modify fun w => { w with machine := f w.machine }

/-- Changes the machine and sends signals. -/
def signal (f : Machine → Machine × List Signal) : Effect Unit :=
  modify fun w => ⟨(f w.machine).1, w.sent ++ (f w.machine).2⟩

/-- Goes on with what an access to the machine yields, or breaks off with its fault. -/
def demand {α : Type} (access : Machine → Except Fault α) : Effect α := do
  match access (← get).machine with
  | .ok a => return a
  | .error cause => throw cause

/-- Changes the registers. -/
def alter (f : Registers → Registers) : Effect Unit :=
  change fun m => { m with registers := f m.registers }

/-- Moves the program counter past `words` instructions. -/
def advance (words : Nat) : Effect Unit := alter (·.advance words)

/-- Points the program counter at an instruction. -/
def jump (target : Word) : Effect Unit := alter ({ · with pc := target })

/-- Takes a number from the random source. -/
def draw : Effect Byte := do
  let (number, source) := (← look (·.source)).draw
  signal ({ · with source }, [.draw])
  return number

/-- Draws the sprite rows one below the other from row `y` on.  The first of them that erases a lit
pixel raises `VF`, and none takes it down again. -/
def blit (x y : Nat) : List Byte → Effect Unit
  | [] => return
  | bits :: rest => do
    let (erased, screen) := (← look (·.screen)).drawRow x y bits
    change ({ · with screen })
    if erased then alter (·.setFlag true)
    blit x (y + 1) rest

/-! ### Instructions -/

/-- Carries out an instruction; the timers do not count down yet. -/
def execute : Instruction → Effect Unit
  | .clearScreen => do
    change fun m => { m with screen := m.screen.clear }
    advance 1
  | .ret => do
    match (← look (·.registers.stack)).pop? with
    | none => throw (.stackUnderflow (← look (·.registers.pc)).toNat)
    | some (address, stack) =>
      alter ({ · with stack })
      -- What was pushed is the address of the call itself.
      jump address
      advance 1
  | .jump target => jump target
  | .call target => do
    let pc ← look (·.registers.pc)
    match (← look (·.registers.stack)).push? pc with
    | none => throw (.stackOverflow pc.toNat stackDepth)
    | some stack =>
      alter ({ · with stack })
      jump target
  | .skip condition => do
    if ← demand (·.holds condition) then advance 2 else advance 1
  | .setByte x value => do
    alter (·.set x value)
    advance 1
  | .addByte x value => do
    let a ← look (·.v x)
    alter (·.set x (a + value))
    advance 1
  | .alu op x y => do
    alter (·.alu op x y)
    advance 1
  | .setIndex address => do
    alter ({ · with i := address })
    advance 1
  | .random x mask => do
    let number ← draw
    alter (·.set x (number &&& mask))
    advance 1
  | .drawSprite x y height => do
    let column ← look (·.v x)
    let row ← look (·.v y)
    let sprite ← demand fun m => m.memory.readBlock m.registers.i.toNat height.val
    -- The start is read before this, so it may lie in `VF`.
    alter (·.setFlag false)
    blit column.toNat row.toNat sprite
    advance 1
  | .readDelay x => do
    let value ← look (·.timers.delay)
    alter (·.set x value)
    advance 1
  | .waitForKey => do
    if ← look (·.keypad.anyDown) then advance 1
  | .setDelay x => do
    signal fun m => m.setDelay (m.v x)
    advance 1
  | .setSound x => do
    signal fun m => m.setSound (m.v x)
    advance 1
  | .addToIndex x => do
    alter (·.addToIndex x)
    advance 1
  | .pointAtGlyph x => do
    let digit ← look (·.v x)
    alter ({ · with i := BitVec.ofNat 16 (glyphSize * digit.toNat) })
    advance 1
  | .storeDecimal x => do
    let memory ← demand fun m =>
      m.memory.writeBlock m.registers.i.toNat (Machine.decimalDigits (m.v x))
    change ({ · with memory })
    advance 1
  | .storeRegisters last => do
    let memory ← demand fun m =>
      m.memory.writeBlock m.registers.i.toNat (m.registers.upTo last)
    change ({ · with memory })
    advance 1
  | .loadRegisters last => do
    let bytes ← demand fun m => m.memory.readBlock m.registers.i.toNat (last.val + 1)
    alter (·.load bytes)
    advance 1

/-- Carries out the instruction that a word spells. -/
def executeWord (w : Word) : Effect Unit := do
  match Instruction.ofWord? w with
  | some instruction => execute instruction
  | none => throw (.invalidOpcode w.toNat (some ((← look (·.registers.pc)).toNat : Int)))

/-- One step: an instruction, and then the timers count down.  Its word. -/
def step : Effect Word := do
  let word ← demand Machine.fetch
  executeWord word
  signal Machine.tick
  change fun m => { m with count := m.count + 1 }
  return word

end Processor

end Chip8
