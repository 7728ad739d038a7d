import Chip8.Processor

/-!
# Transitions

`Processor.step` works effect by effect and may stop between any two of them.  `Machine.step` says
what that comes to, in one piece: either a new machine and the signals on the way to it, or a fault,
and with a fault no machine at all.

`Processor.step_run` proves that the two agree.  So a fault always leaves the machine as it was before
the instruction, whatever the instruction and wherever in it the fault arises, and every later result
about a step is read off `Machine.step`.
-/

namespace Chip8

namespace Machine

/-! ### The transition of an instruction -/

/-- Exchanges the registers and goes on to the next instruction. -/
def goOn (m : Machine) (registers : Registers) : Machine :=
  { m with registers := registers.advance 1 }

/-- Carries out an instruction. -/
def execute (m : Machine) : Instruction → Except Fault (Machine × List Signal)
  | .clearScreen => .ok ({ m with screen := m.screen.clear }.goOn m.registers, [])
  | .ret =>
    match m.registers.stack.pop? with
    | some (address, stack) => .ok (m.goOn { m.registers with pc := address, stack }, [])
    | none => .error (.stackUnderflow m.registers.pc.toNat)
  | .jump target => .ok ({ m with registers := { m.registers with pc := target } }, [])
  | .call target =>
    match m.registers.stack.push? m.registers.pc with
    | some stack => .ok ({ m with registers := { m.registers with pc := target, stack } }, [])
    | none => .error (.stackOverflow m.registers.pc.toNat stackDepth)
  | .skip condition =>
    match m.holds condition with
    | .ok passes =>
      .ok ({ m with registers := m.registers.advance (if passes then 2 else 1) }, [])
    | .error cause => .error cause
  | .setByte x value => .ok (m.goOn (m.registers.set x value), [])
  | .addByte x value => .ok (m.goOn (m.registers.set x (m.v x + value)), [])
  | .alu op x y => .ok (m.goOn (m.registers.alu op x y), [])
  | .setIndex address => .ok (m.goOn { m.registers with i := address }, [])
  | .random x mask =>
    let (number, source) := m.source.draw
    .ok ({ m with source }.goOn (m.registers.set x (number &&& mask)), [.draw])
  | .drawSprite x y height =>
    match m.memory.readBlock m.registers.i.toNat height.val with
    | .ok sprite =>
      let (erased, screen) := m.screen.drawSprite (m.v x).toNat (m.v y).toNat sprite
      .ok ({ m with screen }.goOn (m.registers.setFlag erased), [])
    | .error cause => .error cause
  | .readDelay x => .ok (m.goOn (m.registers.set x m.timers.delay), [])
  | .waitForKey => .ok (if m.keypad.anyDown then m.goOn m.registers else m, [])
  | .setDelay x =>
    let (m, signals) := m.setDelay (m.v x)
    .ok (m.goOn m.registers, signals)
  | .setSound x =>
    let (m, signals) := m.setSound (m.v x)
    .ok (m.goOn m.registers, signals)
  | .addToIndex x => .ok (m.goOn (m.registers.addToIndex x), [])
  | .pointAtGlyph x =>
    .ok (m.goOn { m.registers with i := BitVec.ofNat 16 (glyphSize * (m.v x).toNat) }, [])
  | .storeDecimal x =>
    match m.memory.writeBlock m.registers.i.toNat (decimalDigits (m.v x)) with
    | .ok memory => .ok ({ m with memory }.goOn m.registers, [])
    | .error cause => .error cause
  | .storeRegisters last =>
    match m.memory.writeBlock m.registers.i.toNat (m.registers.upTo last) with
    | .ok memory => .ok ({ m with memory }.goOn m.registers, [])
    | .error cause => .error cause
  | .loadRegisters last =>
    match m.memory.readBlock m.registers.i.toNat (last.val + 1) with
    | .ok bytes => .ok (m.goOn (m.registers.load bytes), [])
    | .error cause => .error cause

/-- Carries out the instruction that a word spells. -/
def executeWord (m : Machine) (w : Word) : Except Fault (Machine × List Signal) :=
  match Instruction.ofWord? w with
  | some instruction => m.execute instruction
  | none => .error (.invalidOpcode w.toNat (some m.registers.pc.toNat))

/-- What a step yields. -/
structure Progress where
  /-- The instruction word carried out. -/
  word : Word
  /-- The machine after it. -/
  machine : Machine
  /-- The signals sent, in order. -/
  signals : List Signal
  deriving Repr

/-- One step: an instruction, and then the timers count down. -/
def step (m : Machine) : Except Fault Progress :=
  match m.fetch with
  | .error cause => .error cause
  | .ok word =>
    match m.executeWord word with
    | .error cause => .error cause
    | .ok (m, sent) =>
      let (m, due) := m.tick
      .ok ⟨word, { m with count := m.count + 1 }, sent ++ due⟩

/-- A step that succeeds has an instruction as its first part, and the count down as its second. -/
theorem parts_of_step {m : Machine} {p : Progress} (h : m.step = .ok p) :
    ∃ m' sent, m.fetch = .ok p.word ∧ m.executeWord p.word = .ok (m', sent) ∧
      p.machine = { m'.tick.1 with count := m'.count + 1 } ∧ p.signals = sent ++ m'.tick.2 := by
  unfold step at h
  cases fetched : m.fetch with
  | error cause => rw [fetched] at h; cases h
  | ok word =>
    rw [fetched] at h
    dsimp only at h
    cases executed : m.executeWord word with
    | error cause => rw [executed] at h; cases h
    | ok next =>
      rw [executed] at h
      cases h
      exact ⟨next.1, next.2, rfl, executed, rfl, rfl⟩

/-- A word that is found and whose instruction can be carried out makes a step. -/
theorem step_of_execute {m m' : Machine} {word : Word} {i : Instruction} {sent : List Signal}
    (fetched : m.fetch = .ok word) (spelled : Instruction.ofWord? word = some i)
    (executed : m.execute i = .ok (m', sent)) :
    m.step = .ok ⟨word, { m'.tick.1 with count := m'.count + 1 }, sent ++ m'.tick.2⟩ := by
  have carriedOut : m.executeWord word = .ok (m', sent) := by
    rw [executeWord, spelled]
    exact executed
  rw [step, fetched]
  dsimp only
  rw [carriedOut]
  rfl

end Machine

/-! ### The effects, one at a time -/

/-- Where the work stands after a transition: a fault leaves it where it was. -/
def Work.after (w : Work) : Except Fault (Machine × List Signal) → EStateM.Result Fault Work Unit
  | .ok (m, signals) => .ok () ⟨m, w.sent ++ signals⟩
  | .error cause => .error cause w

namespace Processor

section Effects

variable {α : Type} (m : Machine) (sent : List Signal)

@[simp] theorem look_run (part : Machine → α) :
    (look part).run ⟨m, sent⟩ = .ok (part m) ⟨m, sent⟩ := rfl

@[simp] theorem change_run (f : Machine → Machine) :
    (change f).run ⟨m, sent⟩ = .ok () ⟨f m, sent⟩ := rfl

@[simp] theorem signal_run (f : Machine → Machine × List Signal) :
    (signal f).run ⟨m, sent⟩ = .ok () ⟨(f m).1, sent ++ (f m).2⟩ := rfl

@[simp] theorem alter_run (f : Registers → Registers) :
    (alter f).run ⟨m, sent⟩ = .ok () ⟨{ m with registers := f m.registers }, sent⟩ := rfl

@[simp] theorem demand_run (access : Machine → Except Fault α) :
    (demand access).run ⟨m, sent⟩ =
      match access m with
      | .ok a => .ok a ⟨m, sent⟩
      | .error cause => .error cause ⟨m, sent⟩ := by
  unfold demand
  simp only [EStateM.run_bind, EStateM.run_get]
  cases access m <;> rfl

@[simp] theorem draw_run :
    draw.run ⟨m, sent⟩ =
      .ok m.source.draw.1 ⟨{ m with source := m.source.draw.2 }, sent ++ [.draw]⟩ := rfl

end Effects

/-- Row by row or in one piece, a sprite comes to the same screen, and it raises `VF` exactly if one of
its rows has erased a lit pixel. -/
theorem blit_run (x y : Nat) (sprite : List Byte) (m : Machine) (sent : List Signal) :
    (blit x y sprite).run ⟨m, sent⟩ =
      .ok () ⟨{ m with
        screen := (m.screen.drawSprite x y sprite).2
        registers := if (m.screen.drawSprite x y sprite).1 then m.registers.setFlag true
          else m.registers }, sent⟩ := by
  induction sprite generalizing y m with
  | nil => rfl
  | cons bits rest ih =>
    have step : (blit x y (bits :: rest)).run ⟨m, sent⟩ =
        (blit x (y + 1) rest).run ⟨{ m with
          screen := (m.screen.drawRow x y bits).2
          registers := if (m.screen.drawRow x y bits).1 then m.registers.setFlag true
            else m.registers }, sent⟩ := by
      cases h : (m.screen.drawRow x y bits).1 <;> simp [blit, h]
    rw [step, ih]
    cases h : (m.screen.drawRow x y bits).1 <;>
      simp [Screen.drawSprite, h, Registers.setFlag_setFlag]

/-! ### The two agree -/

/-- Exchanging the memory for what a guarded write yields, and going on. -/
theorem store_run (write : Machine → Except Fault Memory) (m : Machine) (sent : List Signal) :
    (do
      let memory ← demand write
      change ({ · with memory })
      advance 1 : Effect Unit).run ⟨m, sent⟩ =
      Work.after ⟨m, sent⟩ (match write m with
        | .ok memory => .ok ({ m with memory }.goOn m.registers, [])
        | .error cause => .error cause) := by
  simp only [EStateM.run_bind, demand_run]
  cases write m with
  | error cause => rfl
  | ok memory => simp [Work.after, Machine.goOn, advance]

/-- The effects of an instruction, one after the other, come to its transition. -/
theorem run_execute (i : Instruction) (m : Machine) (sent : List Signal) :
    (execute i).run ⟨m, sent⟩ = Work.after ⟨m, sent⟩ (m.execute i) := by
  cases i with
  | ret =>
    simp only [execute, Machine.execute, Machine.goOn, EStateM.run_bind, look_run]
    cases m.registers.stack.pop? with
    | none => simp [Work.after]
    | some top => simp [Work.after, advance, jump]
  | call target =>
    simp only [execute, Machine.execute, EStateM.run_bind, look_run]
    cases m.registers.stack.push? m.registers.pc with
    | none => simp [Work.after]
    | some stack => simp [Work.after, jump]
  | skip condition =>
    simp only [execute, Machine.execute, EStateM.run_bind, demand_run]
    cases m.holds condition with
    | error cause => rfl
    | ok passes => cases passes <;> simp [Work.after, advance]
  | drawSprite x y height =>
    simp only [execute, Machine.execute, Machine.goOn, EStateM.run_bind, look_run, demand_run]
    generalize m.memory.readBlock m.registers.i.toNat height.val = block
    cases block with
    | error cause => rfl
    | ok sprite =>
      simp only [alter_run, blit_run, advance, Work.after]
      cases (m.screen.drawSprite (m.v x).toNat (m.v y).toNat sprite).1 <;>
        simp [Registers.setFlag_setFlag]
  | waitForKey =>
    simp only [execute, Machine.execute, Machine.goOn, EStateM.run_bind, look_run]
    cases m.keypad.anyDown <;> simp [Work.after, advance]
  | storeDecimal x | storeRegisters last => exact store_run _ m sent
  | loadRegisters last =>
    simp only [execute, Machine.execute, Machine.goOn, EStateM.run_bind, demand_run]
    generalize m.memory.readBlock m.registers.i.toNat (last.val + 1) = block
    cases block <;> simp [Work.after, advance]
  | _ => simp [execute, Machine.execute, Machine.goOn, Work.after, advance, jump]

theorem run_executeWord (w : Word) (m : Machine) (sent : List Signal) :
    (executeWord w).run ⟨m, sent⟩ = Work.after ⟨m, sent⟩ (m.executeWord w) := by
  unfold executeWord Machine.executeWord
  cases Instruction.ofWord? w with
  | none => rfl
  | some i => exact run_execute i m sent

/-- A step of the processor comes to the transition.  A fault leaves the machine as it was, and no
signal is sent on the way to it. -/
theorem step_run (m : Machine) (sent : List Signal) :
    step.run ⟨m, sent⟩ =
      match m.step with
      | .ok p => .ok p.word ⟨p.machine, sent ++ p.signals⟩
      | .error cause => .error cause ⟨m, sent⟩ := by
  simp only [step, Machine.step, EStateM.run_bind, demand_run]
  generalize m.fetch = fetched
  cases fetched with
  | error cause => rfl
  | ok word =>
    simp only [run_executeWord]
    cases m.executeWord word with
    | error cause => rfl
    | ok next => simp only [Work.after, signal_run, change_run, EStateM.run_pure, List.append_assoc]

/-- A step of the processor succeeds as that of its machine does. -/
theorem step_run_eq_ok_iff {m : Machine} {sent : List Signal} {word : Word} {work : Work} :
    step.run ⟨m, sent⟩ = .ok word work ↔
      ∃ p, m.step = .ok p ∧ p.word = word ∧ work = ⟨p.machine, sent ++ p.signals⟩ := by
  rw [step_run]
  constructor
  · intro h
    cases stepped : m.step with
    | error cause => rw [stepped] at h; cases h
    | ok p =>
      rw [stepped] at h
      cases h
      exact ⟨p, rfl, rfl, rfl⟩
  · rintro ⟨p, stepped, rfl, rfl⟩
    rw [stepped]

end Processor

end Chip8
