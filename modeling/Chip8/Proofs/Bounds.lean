import Chip8.Proofs.Accesses
import Chip8.Proofs.Control
import Chip8.Proofs.Histories

/-!
# The ranges of all parts

The types keep the bytes and the words in their ranges, and the numbers of cells, registers, slots,
rows and keys fixed.  Two things are left to prove.

The program counter and the open calls keep to tighter bounds than a word.  Each of the two bounds needs
the other: a return takes the program counter from the stack, and a call puts on the stack the program
counter that its fetch has found in the memory.  `Registers.InBounds` holds both together.

And a write of a block of cells must not be one that changes how many there are.  What stays of the
cells before and after the block, put together with the block, comes to all of the memory.
-/

namespace Chip8

/-! ### Block writes -/

namespace Memory

/-- The cells with some of them, from `address` on, exchanged for a block. -/
def splice (cells : List Byte) (address : Nat) (block : List Byte) : List Byte :=
  cells.take address ++ block ++ cells.drop (address + block.length)

theorem toList_getElem (m : Memory) (k : Nat) (h : k < m.cells.toList.length) :
    m.cells.toList[k] = m.get k := by
  have : k < 4096 := by simpa using h
  rw [get, dif_pos this]
  exact Vector.getElem_toList _

theorem toList_store (m : Memory) (address : Nat) (block : List Byte)
    (fits : address + block.length ≤ 4096) :
    (m.store address block).cells.toList = splice m.cells.toList address block := by
  rw [splice]
  apply List.ext_getElem
  · simp
    omega
  · intro k h₁ h₂
    rw [toList_getElem]
    rcases Nat.lt_or_ge k address with before | start
    · rw [get_store_of_outside _ _ _ _ (.inl before), List.getElem_append_left (by simp; omega),
        List.getElem_append_left (by simp; omega), List.getElem_take, toList_getElem]
    · rcases Nat.lt_or_ge k (address + block.length) with inside | behind
      · have h := m.get_store_of_inside address (k - address) block (by omega) fits
        rw [Nat.add_sub_cancel' start] at h
        rw [h, List.getElem_append_left (by simp; omega), List.getElem_append_right (by simp; omega)]
        congr 1
        simp
        omega
      · rw [get_store_of_outside _ _ _ _ (.inr behind), List.getElem_append_right (by simp; omega),
          List.getElem_drop, toList_getElem]
        congr 1
        simp
        omega

/-- A block write that succeeds is a splice, also of an empty block. -/
theorem splice_of_writeBlock {m memory : Memory} {address : Int} {block : List Byte}
    (h : m.writeBlock address block = .ok memory) :
    memory.cells.toList = splice m.cells.toList address.toNat block := by
  obtain ⟨rfl, checked⟩ := of_writeBlock h
  rcases Nat.eq_zero_or_pos block.length with none | some
  · rw [List.eq_nil_of_length_eq_zero none]
    simp [splice, store]
  · have fits := (checkRange_eq_ok_iff _ _ (by omega)).mp (checked some)
    exact toList_store m address.toNat block (by omega)

theorem splice_of_loadProgram {m memory : Memory} {program : List Byte}
    (h : m.loadProgram program = .ok memory) :
    memory.cells.toList = splice m.cells.toList 0x200 program := by
  unfold loadProgram programCapacity memorySize programStart at h
  split at h
  · cases h
  · cases h
    exact toList_store m 0x200 program (by omega)

end Memory

/-! ### The program counter and the open calls -/

/-- The bounds that the program counter and the open calls keep to. -/
structure Registers.InBounds (r : Registers) : Prop where
  pc_le : r.pc.toNat ≤ 0x1002
  live_le : ∀ address ∈ r.stack.live, address.toNat ≤ 0xFFE

/-- Where there is room, the program counter moves on without wrapping. -/
theorem Word.toNat_add_two_mul (w : Word) (words : Nat) (room : w.toNat + 2 * words < 0x10000) :
    (w + BitVec.ofNat 16 (2 * words)).toNat = w.toNat + 2 * words := by
  rw [BitVec.toNat_add, BitVec.toNat_ofNat]
  omega

theorem Registers.inBounds_initial : Registers.initial.InBounds :=
  ⟨by decide, fun address h => by cases h⟩

/-- With the same open calls only the program counter is left to bound. -/
theorem Registers.InBounds.of_stack_eq {r r' : Registers} (bounds : r.InBounds)
    (same : r'.stack = r.stack) (low : r'.pc.toNat ≤ 0x1002) : r'.InBounds := by
  refine ⟨low, ?_⟩
  rw [same]
  exact bounds.live_le

/-- Every instruction that lies in the memory keeps the bounds. -/
theorem Machine.inBounds_of_executeWord {m m' : Machine} {word : Word} {sent : List Signal}
    (bounds : m.registers.InBounds) (fetched : m.fetch = .ok word)
    (h : m.executeWord word = .ok (m', sent)) : m'.registers.InBounds := by
  obtain ⟨fetched, -⟩ := of_fetch_ok fetched
  obtain ⟨i, spells, executed⟩ := of_executeWord_ok h
  have moves := moves_of_execute executed
  cases i with
  | ret =>
    obtain ⟨address, popped, pc⟩ := moves
    have live := CallStack.live_pop? popped
    have top : address.toNat ≤ 0xFFE := bounds.live_le address (by simp [live])
    refine ⟨?_, fun other h => bounds.live_le other (by simp [live, h])⟩
    rw [pc]
    bv_omega
  | jump target =>
    obtain ⟨stack, pc⟩ := moves
    obtain ⟨-, low⟩ := spells
    refine bounds.of_stack_eq stack ?_
    rw [pc]
    omega
  | call target =>
    obtain ⟨pushed, pc⟩ := moves
    obtain ⟨-, low⟩ := spells
    refine ⟨by rw [pc]; omega, fun address h => ?_⟩
    rw [CallStack.live_push? pushed] at h
    rcases List.mem_append.mp h with old | new
    · exact bounds.live_le address old
    · rw [List.mem_singleton.mp new]
      exact fetched
  | skip condition =>
    obtain ⟨stack, passes, -, pc⟩ := moves
    refine bounds.of_stack_eq stack ?_
    rw [pc]
    cases passes with
    | true => rw [if_pos rfl]; bv_omega
    | false => rw [if_neg Bool.false_ne_true]; bv_omega
  | waitForKey =>
    obtain ⟨stack, pc⟩ := moves
    refine bounds.of_stack_eq stack ?_
    rw [pc]
    cases m.keypad.anyDown with
    | true => rw [if_pos rfl]; bv_omega
    | false => exact bounds.pc_le
  | _ =>
    obtain ⟨stack, pc⟩ := moves
    refine bounds.of_stack_eq stack ?_
    rw [pc]
    bv_omega

/-! ### All parts -/

/-- The pixels as numbers, row by row. -/
def Screen.pixelRows (s : Screen) : List (List Nat) :=
  s.rows.toList.map fun row => (List.range 64).map fun x => (row.getMsbD x).toNat

/-- The ranges that the parts of the machine keep to. -/
structure Machine.InRange (m : Machine) : Prop where
  cell_count : m.memory.cells.toList.length = 0x1000
  cell_le : ∀ cell ∈ m.memory.cells.toList, cell.toNat ≤ 0xFF
  register_count : m.registers.v.toList.length = 16
  register_le : ∀ value ∈ m.registers.v.toList, value.toNat ≤ 0xFF
  index_le : m.registers.i.toNat ≤ 0xFFFF
  pc_le : m.registers.pc.toNat ≤ 0x1002
  slot_count : m.registers.stack.slots.toList.length = 16
  depth_le : m.registers.stack.depth ≤ 16
  live_count : m.registers.stack.live.length = m.registers.stack.depth
  live_le : ∀ address ∈ m.registers.stack.live, address.toNat ≤ 0xFFE
  delay_le : m.timers.delay.toNat ≤ 0xFF
  sound_le : m.timers.sound.toNat ≤ 0xFF
  row_count : m.screen.pixelRows.length = 32
  column_count : ∀ row ∈ m.screen.pixelRows, row.length = 64
  pixel_le : ∀ row ∈ m.screen.pixelRows, ∀ pixel ∈ row, pixel ≤ 1
  key_count : m.keypad.keys.toList.length = 16

/-- The other parts are in range by their types. -/
theorem Machine.inRange_of_inBounds {m : Machine} (bounds : m.registers.InBounds) : m.InRange where
  cell_count := by simp
  cell_le cell _ := by have := cell.isLt; omega
  register_count := by simp
  register_le value _ := by have := value.isLt; omega
  index_le := by have := m.registers.i.isLt; omega
  pc_le := bounds.pc_le
  slot_count := by simp
  depth_le := m.registers.stack.depth_le
  live_count := m.registers.stack.length_live
  live_le := bounds.live_le
  delay_le := by have := m.timers.delay.isLt; omega
  sound_le := by have := m.timers.sound.isLt; omega
  row_count := by simp [Screen.pixelRows]
  column_count row h := by
    obtain ⟨bits, -, rfl⟩ := List.mem_map.mp h
    simp
  pixel_le row h pixel hpixel := by
    obtain ⟨bits, -, rfl⟩ := List.mem_map.mp h
    obtain ⟨x, -, rfl⟩ := List.mem_map.mp hpixel
    exact Bool.toNat_le _
  key_count := by simp

/-! ### Reachable sessions -/

namespace Session

/-- What operations can make of a session whose machine has just been switched on. -/
inductive Reachable : Session → Prop where
  | initial (config : Config) : Reachable (initial config)
  | perform {s : Session} {op : Operation} {o : Outcome Session Answer} :
    Reachable s → s.perform op = some o → Reachable o.state

theorem inBounds_of_change {supply : List Byte → Prop} {s t : Session} {events : List Event}
    (change : Change supply s events t) (bounds : s.machine.registers.InBounds) :
    t.machine.registers.InBounds := by
  cases change with
  | instruction fetched h => exact Machine.inBounds_of_executeWord bounds fetched h
  | reset | resetProcessor => exact Registers.inBounds_initial
  | _ => exact bounds

theorem inBounds_of_reachable {s : Session} (h : s.Reachable) : s.machine.registers.InBounds := by
  induction h with
  | initial config => exact Registers.inBounds_initial
  | perform _ performed ih => exact (history_of_perform performed).invariant inBounds_of_change ih

/-- After any operations, failed ones included, all parts are in their ranges.  There the program
counter moves on without wrapping, from where it is and from every open call, and a block that is
written takes the place of just as many cells. -/
theorem inRange_of_reachable {s : Session} (h : s.Reachable) :
    s.machine.InRange ∧
    (∀ words ≤ 2, (s.machine.registers.advance words).pc.toNat =
      s.machine.registers.pc.toNat + 2 * words) ∧
    (∀ address ∈ s.machine.registers.stack.live, ∀ words ≤ 2,
      ({ s.machine.registers with pc := address }.advance words).pc.toNat =
        address.toNat + 2 * words) ∧
    (∀ address block memory, s.machine.memory.writeBlock address block = .ok memory →
      memory.cells.toList = Memory.splice s.machine.memory.cells.toList address.toNat block) ∧
    ∀ program memory, s.machine.memory.loadProgram program = .ok memory →
      memory.cells.toList = Memory.splice s.machine.memory.cells.toList 0x200 program := by
  have bounds := inBounds_of_reachable h
  refine ⟨Machine.inRange_of_inBounds bounds, ?_, ?_, ?_, ?_⟩
  · intro words few
    have := bounds.pc_le
    exact Word.toNat_add_two_mul _ _ (by omega)
  · intro address live words few
    have := bounds.live_le address live
    exact Word.toNat_add_two_mul address words (by omega)
  · intro address block memory
    exact Memory.splice_of_writeBlock
  · intro program memory
    exact Memory.splice_of_loadProgram

/-- A program that calls itself, after its first call. -/
theorem inRange_of_reachable_call :
    let s := initial ⟨.listed [] 0, 0, false⟩
    ((s.load [0x22, 0x00]).state.step .silent).state.machine.InRange := by
  intro s
  have hload : s.perform (.load [0x22, 0x00]) = some ((s.load [0x22, 0x00]).map Answer.number) := rfl
  have loaded := Reachable.perform (.initial _) hload
  have hstep (t : Session) : t.perform (.step .silent) = some ((t.step .silent).map Answer.word) := rfl
  have stepped := Reachable.perform loaded (hstep _)
  exact (inRange_of_reachable stepped).1

end Session

end Chip8
