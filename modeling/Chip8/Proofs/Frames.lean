import Chip8.Proofs.Control
import Chip8.Proofs.Parts
import Chip8.Proofs.Turns

/-!
# What a step leaves alone

Every instruction has its own parts of the machine that it may write.  `Machine.Framed` lists them by the
word: the cells, the registers, and which words reach the index, the screen, the timers and the random
source at all.  Whatever is not listed stays as it was, whatever the operands, also where an operand is
`VF`.

Of a run it follows that cells to which nothing is stored survive it (`Session.get_play`): the font, the
program, or any others.
-/

namespace Chip8

/-! ### What an instruction writes -/

/-- The registers that an operation of group 8 writes: one of its operands, and all but a copy write `VF`
as well. -/
def AluOp.Writes (x y query : Register) : AluOp → Prop
  | .copy => query = x
  | .halve | .double => query = y ∨ query = Register.flag
  | _ => query = x ∨ query = Register.flag

/-- The registers that an instruction writes. -/
def Instruction.Writes (query : Register) : Instruction → Prop
  | .setByte x _ | .addByte x _ | .random x _ | .readDelay x => query = x
  | .alu op x y => op.Writes x y query
  | .drawSprite _ _ _ | .addToIndex _ => query = Register.flag
  | .loadRegisters last => query.val ≤ last.val
  | _ => False

/-- The instruction writes the index. -/
def Instruction.WritesIndex : Instruction → Prop
  | .setIndex _ | .addToIndex _ | .pointAtGlyph _ => True
  | _ => False

/-- The number of cells, from the index on, that an instruction stores in. -/
def Instruction.cellsStored : Instruction → Nat
  | .storeDecimal _ => 3
  | .storeRegisters last => last.val + 1
  | _ => 0

/-- A block write that succeeds changes no cell outside the block. -/
theorem Memory.get_of_writeBlock {m memory : Memory} {address a : Nat} {bytes : List Byte}
    (h : m.writeBlock address bytes = .ok memory) (outside : a < address ∨ address + bytes.length ≤ a) :
    memory.get a = m.get a := by
  rw [(of_writeBlock h).1]
  exact get_store_of_outside m address a bytes outside

namespace Registers

variable (r : Registers)

@[simp] theorem i_alu (op : AluOp) (x y : Register) : (r.alu op x y).i = r.i := by
  cases op <;> rfl

@[simp] theorem i_load (bytes : List Byte) : (r.load bytes).i = r.i := by rw [load]

/-- An operation writes its target and the flag, and no other register. -/
theorem get_alu_of_not_writes {op : AluOp} {x y query : Register} (spared : ¬ op.Writes x y query) :
    (r.alu op x y).get query = r.get query := by
  cases op with
  | copy => exact r.get_set_of_ne (Ne.symm spared) _
  | sub | subFrom =>
    obtain ⟨result, flag⟩ := not_or.mp spared
    exact (get_set_of_ne _ (Ne.symm result) _).trans (r.get_setFlag _ flag)
  | halve | double =>
    obtain ⟨result, flag⟩ := not_or.mp spared
    exact (get_set_of_ne _ (Ne.symm result) _).trans (r.get_set_of_ne (Ne.symm flag) _)
  | _ =>
    obtain ⟨result, flag⟩ := not_or.mp spared
    exact (get_setFlag _ _ flag).trans (r.get_set_of_ne (Ne.symm result) _)

theorem get_load_of_length_le {bytes : List Byte} {query : Register} (behind : bytes.length ≤ query.val) :
    (r.load bytes).get query = r.get query := by
  rw [get_load, List.getD_eq_getElem?_getD, List.getElem?_eq_none behind]
  rfl

end Registers

namespace Machine

variable {m m' : Machine} {i : Instruction} {sent : List Signal}

/-- Of the memory, the index and the registers, what an instruction does not write is as before. -/
structure Spares (m : Machine) (i : Instruction) (after : Machine) : Prop where
  memory : ∀ a, a < m.registers.i.toNat ∨ m.registers.i.toNat + i.cellsStored ≤ a →
    after.memory.get a = m.memory.get a
  index : ¬ i.WritesIndex → after.registers.i = m.registers.i
  register : ∀ x, ¬ i.Writes x → after.v x = m.v x

/-- An instruction may leave alone all of the three. -/
theorem Spares.of_eq {after : Machine} (memory : after.memory = m.memory)
    (index : after.registers.i = m.registers.i) (v : after.registers.v = m.registers.v) :
    m.Spares i after where
  memory a _ := by rw [memory]
  index _ := index
  register x _ := by rw [Machine.v, Registers.get, v]; rfl

theorem spares_of_execute (h : m.execute i = .ok (m', sent)) : m.Spares i m' := by
  cases i with
  | setByte x _ | addByte x _ | readDelay x | random x _ =>
    cases h
    exact ⟨fun _ _ => rfl, fun _ => rfl, fun _ other => m.registers.get_set_of_ne (Ne.symm other) _⟩
  | alu op x y =>
    cases h
    exact ⟨fun _ _ => rfl, fun _ => m.registers.i_alu op x y,
      fun _ spared => m.registers.get_alu_of_not_writes spared⟩
  | setIndex _ | pointAtGlyph _ =>
    cases h
    exact ⟨fun _ _ => rfl, fun spared => absurd trivial spared, fun _ _ => rfl⟩
  | addToIndex x =>
    cases h
    exact ⟨fun _ _ => rfl, fun spared => absurd trivial spared,
      fun _ other => m.registers.get_setFlag _ other⟩
  | drawSprite x y height =>
    rw [execute] at h
    split at h
    · cases h
      exact ⟨fun _ _ => rfl, fun _ => rfl, fun _ other => m.registers.get_setFlag _ other⟩
    · cases h
  | storeDecimal x =>
    rw [execute] at h
    split at h
    · next written =>
      cases h
      exact ⟨fun _ outside => Memory.get_of_writeBlock written outside, fun _ => rfl, fun _ _ => rfl⟩
    · cases h
  | storeRegisters last =>
    rw [execute] at h
    split at h
    · next written =>
      cases h
      refine ⟨fun a outside => Memory.get_of_writeBlock written ?_, fun _ => rfl, fun _ _ => rfl⟩
      rw [m.registers.length_upTo]
      exact outside
    · cases h
  | loadRegisters last =>
    rw [execute] at h
    split at h
    · next bytes read =>
      cases h
      have length : bytes.length = last.val + 1 := by
        rw [Memory.slice_of_readBlock read, Memory.length_slice]
      have index := m.registers.i_load bytes
      have register (query : Register) (behind : ¬ (Instruction.loadRegisters last).Writes query) :
          (m.registers.load bytes).get query = m.registers.get query :=
        m.registers.get_load_of_length_le (length ▸ Nat.lt_of_not_le behind)
      -- What is loaded does not matter any more, and must not be computed.
      generalize m.registers.load bytes = registers at index register ⊢
      exact ⟨fun _ _ => rfl, fun _ => index, register⟩
    · cases h
  | waitForKey =>
    cases h
    cases m.keypad.anyDown <;> exact .of_eq rfl rfl rfl
  | ret | call _ | skip _ =>
    rw [execute] at h
    split at h
    · cases h
      exact .of_eq rfl rfl rfl
    · cases h
  | _ =>
    cases h
    exact .of_eq rfl rfl rfl

/-! ### Words -/

/-- The word stores in a cell: the digits of a number in three cells from the index on, or registers in
as many as there are. -/
def StoresIn (m : Machine) (w a : Nat) : Prop :=
  let i := m.registers.i.toNat
  w / 4096 = 0xF ∧
    (w % 256 = 0x33 ∧ i ≤ a ∧ a ≤ i + 2 ∨ w % 256 = 0x55 ∧ i ≤ a ∧ a ≤ i + w / 256 % 16)

/-- The word writes a register: its first operand, its second one in a shift, all up to the first one in
a load, or `VF`. -/
def WritesRegister (w : Nat) (query : Register) : Prop :=
  query.val = w / 256 % 16 ∧
      (w / 4096 ∈ [6, 7, 0xC] ∨ w / 4096 = 8 ∧ w % 16 ∈ [0, 1, 2, 3, 4, 5, 7] ∨
        w / 4096 = 0xF ∧ w % 256 = 0x07) ∨
    query.val = w / 16 % 16 ∧ w / 4096 = 8 ∧ w % 16 ∈ [6, 0xE] ∨
    query.val ≤ w / 256 % 16 ∧ w / 4096 = 0xF ∧ w % 256 = 0x65 ∨
    query = Register.flag ∧
      (w / 4096 = 8 ∧ w % 16 ∈ [1, 2, 3, 4, 5, 6, 7, 0xE] ∨ w / 4096 = 0xD ∨
        w / 4096 = 0xF ∧ w % 256 = 0x1E)

/-- What a step leaves alone if it carries out a word. -/
structure Framed (m : Machine) (w : Nat) (after : Machine) : Prop where
  memory : ∀ a, ¬ m.StoresIn w a → after.memory.get a = m.memory.get a
  index : ¬ (w / 4096 = 0xA ∨ w / 4096 = 0xF ∧ w % 256 ∈ [0x1E, 0x29]) →
    after.registers.i = m.registers.i
  register : ∀ x, ¬ WritesRegister w x → after.v x = m.v x
  /-- The pixels and the draw flag.  A word of group 0 is told by its low byte alone. -/
  screen : ¬ (w / 4096 = 0 ∧ w % 256 = 0xE0 ∨ w / 4096 = 0xD) → after.screen = m.screen
  keypad : after.keypad = m.keypad
  source : w / 4096 ≠ 0xC → after.source = m.source
  delay : ¬ (w / 4096 = 0xF ∧ w % 256 = 0x15) →
    after.timers.delay.toNat = m.timers.delay.toNat - 1
  sound : ¬ (w / 4096 = 0xF ∧ w % 256 = 0x18) →
    after.timers.sound.toNat = m.timers.sound.toNat - 1

section

variable {w : Nat}

/-- A cell in which a word does not store lies outside of what its instruction writes. -/
theorem outside_of_not_storesIn (spells : i.spells w) {a : Nat} (spared : ¬ m.StoresIn w a) :
    a < m.registers.i.toNat ∨ m.registers.i.toNat + i.cellsStored ≤ a := by
  unfold StoresIn at spared
  cases i with
  | storeDecimal x =>
    obtain ⟨⟨group, low⟩, -⟩ := spells
    simp only [Instruction.cellsStored]
    omega
  | storeRegisters last =>
    obtain ⟨⟨group, low⟩, hlast⟩ := spells
    simp only [Instruction.cellsStored]
    omega
  | _ => exact Nat.lt_or_ge a _

theorem not_writesIndex (spells : i.spells w)
    (spared : ¬ (w / 4096 = 0xA ∨ w / 4096 = 0xF ∧ w % 256 ∈ [0x1E, 0x29])) : ¬ i.WritesIndex := by
  intro writes
  cases i with
  | setIndex address => exact spared (.inl spells.1)
  | addToIndex x | pointAtGlyph x =>
    obtain ⟨⟨group, low⟩, -⟩ := spells
    exact spared (.inr ⟨group, by simp [low]⟩)
  | _ => exact writes.elim

/-- The low nibble says which operand an operation of group 8 writes, and whether `VF` as well. -/
theorem writesRegister_of_aluOp? {op : AluOp} {x y query : Register}
    (spells : (Instruction.alu op x y).spells w) (writes : op.Writes x y query) :
    WritesRegister w query := by
  obtain ⟨⟨group, nibble⟩, hx, hy⟩ := spells
  have first (low : w % 16 ∈ [0, 1, 2, 3, 4, 5, 7]) (e : query = x) : WritesRegister w query :=
    .inl ⟨e ▸ hx, .inr (.inl ⟨group, low⟩)⟩
  have second (low : w % 16 ∈ [6, 0xE]) (e : query = y) : WritesRegister w query :=
    .inr (.inl ⟨e ▸ hy, group, low⟩)
  have flag (low : w % 16 ∈ [1, 2, 3, 4, 5, 6, 7, 0xE]) (e : query = Register.flag) :
      WritesRegister w query :=
    .inr (.inr (.inr ⟨e, .inl ⟨group, low⟩⟩))
  -- The cases of the low nibble: a copy, the two shifts, no operation, and all others.
  unfold Instruction.aluOp? at nibble
  split at nibble
  case h_1 low =>
    cases nibble
    exact first (by simp [low]) writes
  case h_7 low | h_9 low =>
    cases nibble
    exact writes.elim (second (by simp [low])) (flag (by simp [low]))
  case h_10 => cases nibble
  all_goals
    next low =>
      cases nibble
      exact writes.elim (first (by simp [low])) (flag (by simp [low]))

theorem writesRegister_of_writes {query : Register} (spells : i.spells w) (writes : i.Writes query) :
    WritesRegister w query := by
  cases i with
  | alu op x y => exact writesRegister_of_aluOp? spells writes
  | setByte x _ | addByte x _ | random x _ =>
    obtain ⟨group, hx, -⟩ := spells
    exact .inl ⟨writes ▸ hx, .inl (by simp [group])⟩
  | readDelay x =>
    obtain ⟨code, hx⟩ := spells
    exact .inl ⟨writes ▸ hx, .inr (.inr code)⟩
  | drawSprite x y height => exact .inr (.inr (.inr ⟨writes, .inr (.inl spells.1)⟩))
  | addToIndex x => exact .inr (.inr (.inr ⟨writes, .inr (.inr spells.1)⟩))
  | loadRegisters last =>
    obtain ⟨code, hlast⟩ := spells
    exact .inr (.inr (.inl ⟨hlast ▸ writes, code⟩))
  | _ => exact writes.elim

/-- A step that succeeds keeps to the parts that its word may write. -/
theorem framed_of_step {p : Progress} (h : m.step = .ok p) : m.Framed p.word.toNat p.machine := by
  obtain ⟨-, -, i, m', sent, spells, executed, machine, -⟩ := of_step_ok h
  have parts := parts_of_execute executed
  have spares := spares_of_execute executed
  rw [machine]
  constructor
  case memory => exact fun a spared => spares.memory a (outside_of_not_storesIn spells spared)
  case index => exact fun spared => spares.index (not_writesIndex spells spared)
  case register => exact fun x spared => spares.register x (mt (writesRegister_of_writes spells) spared)
  case screen =>
    intro spared
    refine parts.screen.trans ?_
    cases i with
    | clearScreen => exact absurd (.inl spells) spared
    | drawSprite x y height => exact absurd (.inr spells.1) spared
    | _ => rfl
  case keypad => exact parts.keypad
  case source =>
    intro spared
    refine parts.source.trans ?_
    cases i with
    | random x mask => exact absurd spells.1 spared
    | _ => rfl
  case delay =>
    intro spared
    have same : (m.timersAfter i).delay = m.timers.delay := by
      cases i with
      | setDelay x => exact absurd spells.1 spared
      | _ => rfl
    show (Timers.countDown m'.timers.delay).toNat = _
    rw [Timers.toNat_countDown, parts.timers, same]
  case sound =>
    intro spared
    have same : (m.timersAfter i).sound = m.timers.sound := by
      cases i with
      | setSound x => exact absurd spells.1 spared
      | _ => rfl
    show (Timers.countDown m'.timers.sound).toNat = _
    rw [Timers.toNat_countDown, parts.timers, same]

end

/-- The step that is due will succeed, and it stores in a cell. -/
def Stores (m : Machine) (a : Nat) : Prop :=
  (∃ p, m.step = .ok p) ∧ m.StoresIn m.nextWord.toNat a

end Machine

/-! ### Runs -/

namespace Session

/-- A turn spares the cells in which its step does not store. -/
theorem get_take (s : Session) {turn : Turn} {a : Nat}
    (spared : turn = .step → ¬ s.machine.Stores a) :
    (s.take turn).machine.memory.get a = s.machine.memory.get a := by
  cases turn with
  | press key => rw [take, press, withKey_val]; rfl
  | release key => rw [take, release, withKey_val]; rfl
  | step =>
    rw [take, step_silent]
    cases stepped : s.machine.step with
    | error cause => rfl
    | ok p =>
      obtain ⟨-, word, -⟩ := Machine.of_step_ok stepped
      refine (Machine.framed_of_step stepped).memory a fun stores => ?_
      exact spared rfl ⟨⟨p, stepped⟩, word ▸ stores⟩

/-- A cell in which no step of a run stores survives the run. -/
theorem get_play {s : Session} {turns : List Turn} {a : Nat}
    (spared : ∀ earlier later, turns = earlier ++ .step :: later →
      ¬ (s.play earlier).machine.Stores a) :
    (s.play turns).machine.memory.get a = s.machine.memory.get a := by
  induction turns generalizing s with
  | nil => rfl
  | cons turn later ih =>
    have first : (s.take turn).machine.memory.get a = s.machine.memory.get a :=
      s.get_take fun same => spared [] later (same ▸ rfl)
    have rest : ((s.take turn).play later).machine.memory.get a = (s.take turn).machine.memory.get a :=
      ih fun earlier last split => spared (turn :: earlier) last (congrArg (turn :: ·) split)
    exact rest.trans first

end Session

/-- A step that succeeds leaves alone all that its word may not write.  So a block of cells in which no
step of a run stores, such as the font or the program, is after the run what it was before. -/
theorem Processor.step_framed :
    (∀ m sent word work, step.run ⟨m, sent⟩ = .ok word work → m.Framed word.toNat work.machine) ∧
      ∀ (s : Session) (turns : List Turn) (address length : Nat),
        (∀ earlier later, turns = earlier ++ .step :: later →
          ∀ a, address ≤ a → a < address + length → ¬ (s.play earlier).machine.Stores a) →
        (s.play turns).machine.memory.slice address length = s.machine.memory.slice address length := by
  constructor
  · intro m sent word work h
    obtain ⟨p, stepped, rfl, rfl⟩ := step_run_eq_ok_iff.mp h
    exact Machine.framed_of_step stepped
  · intro s turns address length spared
    unfold Memory.slice
    refine List.map_congr_left fun offset inside => Session.get_play fun earlier later split => ?_
    have := List.mem_range.mp inside
    exact spared earlier later split _ (by omega) (by omega)

/-- A program that stores a register behind itself. -/
theorem Processor.step_framed_store :
    let program : List Byte := [0x60, 0x07, 0xA3, 0x00, 0xF0, 0x55]
    let s := ((Session.initial ⟨.listed [] 0, 0, false⟩).load program).state
    let m := (s.play [.step, .step]).machine
    let t := s.play [.step, .step, .step]
    (∃ word work, step.run ⟨m, []⟩ = .ok word work ∧ m.Framed word.toNat work.machine) ∧
      t.machine.memory.get 0x300 = 7 ∧
      t.machine.memory.slice 0 80 = font ∧ t.machine.memory.slice 0x200 6 = program := by
  obtain ⟨step, run⟩ := step_framed
  intro program
  have facts :
      let s := ((Session.initial ⟨.listed [] 0, 0, false⟩).load program).state
      let m := (s.play [.step, .step]).machine
      s.machine.nextWord = 0x6007 ∧ (s.play [.step]).machine.nextWord = 0xA300 ∧
      m.registers.i = 0x300 ∧ m.fault? = none ∧
      (s.play [.step, .step, .step]).machine.memory.get 0x300 = 7 ∧
      s.machine.memory.slice 0 80 = font ∧ s.machine.memory.slice 0x200 6 = program := by
    decide +kernel
  generalize ((Session.initial ⟨.listed [] 0, 0, false⟩).load program).state = s at facts ⊢
  intro s m t
  obtain ⟨first, second, index, fine, stored, glyphs, loaded⟩ := facts
  have spared (earlier later : List Turn) (split : [.step, .step, .step] = earlier ++ .step :: later)
      (a : Nat) (low : a < 0x300) : ¬ (s.play earlier).machine.Stores a := by
    rintro ⟨-, group, cells⟩
    rcases earlier with _ | ⟨turn₁, _ | ⟨turn₂, _ | ⟨turn₃, rest⟩⟩⟩
    all_goals simp only [List.cons_append, List.nil_append, List.cons.injEq] at split
    · rw [show (s.play []).machine.nextWord = 0x6007 from first] at group
      exact absurd group (by decide)
    · obtain ⟨rfl, -⟩ := split
      rw [second] at group
      exact absurd group (by decide)
    · obtain ⟨rfl, rfl, -⟩ := split
      rw [index] at cells
      have start : (0x300#16).toNat ≤ a := cells.elim (·.2.1) (·.2.1)
      exact absurd low (Nat.not_lt.mpr start)
    · obtain ⟨-, -, -, none⟩ := split
      cases rest <;> cases none
  have kept := run s [.step, .step, .step]
  refine ⟨?_, stored, ?_, ?_⟩
  · obtain ⟨p, stepped⟩ := faultOf_eq_none_iff.mp (m.faultOf_step.trans fine)
    have ran : Processor.step.run ⟨m, []⟩ = .ok p.word ⟨p.machine, [] ++ p.signals⟩ :=
      step_run_eq_ok_iff.mpr ⟨p, stepped, rfl, rfl⟩
    exact ⟨p.word, _, ran, step m [] p.word _ ran⟩
  · refine (kept 0 80 fun earlier later split a _ high => ?_).trans glyphs
    exact spared earlier later split a (by omega)
  · refine (kept 0x200 6 fun earlier later split a _ high => ?_).trans loaded
    exact spared earlier later split a (by omega)

end Chip8
