import Chip8.Proofs.Bounds

/-!
# Accesses from anywhere

Whoever asks for cells may name any integers, and so may whoever gives values to write.  An access goes through
if all of its cells exist (`Memory.Fits`).  Otherwise it fails with one fault (`Memory.misfit`), the same for
reads and writes of one cell, of two, or of a block, and nothing has been written.

After a write, whatever block is read holds the low eight bits of the values where it meets them, and elsewhere
what it held before (`Memory.Overwritten`), however the two ranges lie to each other.
-/

namespace Chip8

/-- The byte of an integer is its remainder. -/
theorem Byte.toNat_ofInt (value : Int) : ((Byte.ofInt value).toNat : Int) = value % 256 := by
  rw [Byte.ofInt, BitVec.toNat_ofInt]
  omega

namespace Memory

/-! ### One guard for all -/

/-- The cells exist. -/
def Fits (address length : Int) : Prop := 0 ≤ address ∧ address + length ≤ 0x1000

instance (address length : Int) : Decidable (Fits address length) := inferInstanceAs (Decidable (_ ∧ _))

/-- The fault of an access whose cells do not all exist.  It names the first cell, unless that one exists, and
then the last. -/
def misfit (address length : Int) : Fault :=
  .outOfRange .memory (if 0 ≤ address ∧ address < 0x1000 then address + length - 1 else address) 0x1000

/-- An access goes through if its cells exist, and only then; else it fails with the fault for that. -/
def Guarded {α : Type} (address length : Int) (access : Except Fault α) : Prop :=
  ((∃ a, access = .ok a) ↔ Fits address length) ∧
    (¬ Fits address length → access = .error (misfit address length))

section

variable {address length : Int}

theorem checkRange_of_fits (positive : 0 < length) (fits : Fits address length) :
    checkRange address length = .ok () :=
  (checkRange_eq_ok_iff address length positive).mpr fits

/-- A range that does not fit is refused, with the address that does not. -/
theorem checkRange_of_not_fits (misfits : ¬ Fits address length) :
    checkRange address length = .error (misfit address length) := by
  unfold Fits at misfits
  unfold checkRange misfit memorySize
  by_cases first : 0 ≤ address ∧ address < 0x1000
  · rw [if_neg (by omega), if_pos (by omega), if_pos first]
    rfl
  · rw [if_pos (by omega), if_neg first]
    rfl

/-- What is done behind the guard cannot fail any more. -/
theorem guarded_check {α : Type} (positive : 0 < length) (a : α) :
    Guarded address length (checkRange address length >>= fun _ => pure a) := by
  by_cases fits : Fits address length
  · rw [checkRange_of_fits positive fits]
    exact ⟨iff_of_true ⟨a, rfl⟩ fits, absurd fits⟩
  · rw [checkRange_of_not_fits fits]
    exact ⟨iff_of_false (fun ⟨_, done⟩ => nomatch done) fits, fun _ => rfl⟩

end

section

variable (m : Memory) (address : Int)

theorem guarded_read8 : Guarded address 1 (m.read8 address) := guarded_check (by decide) _

theorem guarded_read16 : Guarded address 2 (m.read16 address) := guarded_check (by decide) _

theorem guarded_readBlock {length : Int} (positive : 0 < length) :
    Guarded address length (m.readBlock address length) := by
  rw [readBlock, if_neg (by omega)]
  exact guarded_check positive _

theorem guarded_writeBlock {bytes : List Byte} (some : bytes ≠ []) :
    Guarded address bytes.length (m.writeBlock address bytes) := by
  have positive := List.length_pos_iff.mpr some
  rw [writeBlock, if_neg (mt List.isEmpty_iff.mp some)]
  exact guarded_check (by omega) _

/-- A single cell is written as a block of one. -/
theorem write8_eq_writeBlock (value : Int) :
    m.write8 address value = m.writeBlock address [Byte.ofInt value] := rfl

end

/-! ### Reading -/

section

variable {m : Memory} {address : Int}

theorem readBlock_eq_slice {length : Int} (positive : 0 < length) (fits : Fits address length) :
    m.readBlock address length = .ok (m.slice address.toNat length.toNat) := by
  rw [readBlock, if_neg (by omega), checkRange_of_fits positive fits]
  rfl

/-- A block of one cell is that cell. -/
theorem read8_eq_ok_iff {byte : Byte} :
    m.read8 address = .ok byte ↔ m.readBlock address 1 = .ok [byte] := by
  by_cases fits : Fits address 1
  · rw [readBlock_eq_slice (by decide) fits, read8, checkRange_of_fits (by decide) fits]
    simp [slice, bind, Except.bind, pure, Except.pure]
  · rw [(m.guarded_read8 address).2 fits, (m.guarded_readBlock address (by decide)).2 fits]
    simp

theorem of_read8_eq_ok {byte : Byte} (read : m.read8 address = .ok byte) :
    Fits address 1 ∧ byte = m.get address.toNat := by
  have fits := (m.guarded_read8 address).1.mp ⟨byte, read⟩
  rw [read8, checkRange_of_fits (by decide) fits] at read
  cases read
  exact ⟨fits, rfl⟩

/-- A word is the two bytes that can be read one by one, the first of them counting more. -/
theorem exists_read16 {high low : Byte} (first : m.read8 address = .ok high)
    (second : m.read8 (address + 1) = .ok low) :
    ∃ word, m.read16 address = .ok word ∧ word.toNat = 256 * high.toNat + low.toNat := by
  obtain ⟨start, rfl⟩ := of_read8_eq_ok first
  obtain ⟨stop, rfl⟩ := of_read8_eq_ok second
  have fits : Fits address 2 := ⟨start.1, by have := stop.2; omega⟩
  have next : (address + 1).toNat = address.toNat + 1 := by
    have := start.1
    omega
  refine ⟨_, ?_, Word.toNat_ofBytes _ _⟩
  rw [next, read16, checkRange_of_fits (by decide) fits]
  rfl

end

/-! ### Reading what was written -/

/-- What reads find after values were written from `address` on. -/
structure Overwritten (before : Memory) (address : Int) (values : List Int) (after : Memory) : Prop where
  /-- What was in front of the written cells and behind them is still there, and no more and no less. -/
  cells : after.cells.toList = splice before.cells.toList address.toNat (values.map Byte.ofInt)
  size : after.cells.toList.length = 0x1000
  block : ∀ start length, 0 < length → Fits start length →
    ∃ old new, before.readBlock start length = .ok old ∧ after.readBlock start length = .ok new ∧
      old.length = length ∧ new.length = length ∧
      ∀ k (inOld : k < old.length) (inNew : k < new.length),
        (∀ j (inside : j < values.length), start + k = address + j →
          (new[k].toNat : Int) = values[j] % 256) ∧
        (start + k < address ∨ address + values.length ≤ start + k → new[k] = old[k])

theorem getElem_slice (m : Memory) {address length k : Nat} (inside : k < (m.slice address length).length) :
    (m.slice address length)[k] = m.get (address + k) := by
  simp [slice]

/-- After a block has been written its cells hold it, and the others what they held. -/
theorem overwritten_of_writeBlock {m memory : Memory} {address : Int} {values : List Int}
    (fits : Fits address values.length)
    (written : m.writeBlock address (values.map Byte.ofInt) = .ok memory) :
    m.Overwritten address values memory := by
  obtain ⟨low, high⟩ := fits
  have count : (values.map Byte.ofInt).length = values.length := List.length_map _
  refine ⟨splice_of_writeBlock written, by simp, fun start length positive inside => ?_⟩
  obtain ⟨rfl, -⟩ := of_writeBlock written
  refine ⟨_, _, readBlock_eq_slice positive inside, readBlock_eq_slice positive inside, ?_, ?_, ?_⟩
  · rw [length_slice]
    omega
  · rw [length_slice]
    omega
  intro k inOld inNew
  rw [getElem_slice, getElem_slice]
  obtain ⟨start0, -⟩ := inside
  constructor
  · intro j inside here
    have place : start.toNat + k = address.toNat + j := by omega
    rw [place, m.get_store_of_inside _ j _ (by omega) (by omega), List.getElem_map, Byte.toNat_ofInt]
  · intro outside
    exact m.get_store_of_outside _ _ _ (by omega)

end Memory

/-! ### Requests -/

/-- The request is to write values into the cells from `address` on. -/
def Operation.Writes (address : Int) (values : List Int) : Operation → Prop
  | .write8 place value => place = address ∧ [value] = values
  | .writeBlock place given => place = address ∧ given = values
  | _ => False

namespace Session

open Memory

/-- A request that writes comes to writing a block. -/
theorem perform_of_writes {s : Session} {op : Operation} {address : Int} {values : List Int}
    (writes : op.Writes address values) :
    s.perform op = some ((s.withMemory .fault
      (s.machine.memory.writeBlock address (values.map Byte.ofInt))).map fun _ => .done) := by
  cases op with
  | write8 place value =>
    obtain ⟨rfl, rfl⟩ := writes
    rw [perform, write8_eq_writeBlock]
    rfl
  | writeBlock place given =>
    obtain ⟨rfl, rfl⟩ := writes
    rfl
  | _ => exact writes.elim

/-- Cells can be read and written where they exist and nowhere else, and an access that fails names a cell
that does not exist and leaves all as it was.  What was written is read back as the low eight bits of each
value, in whatever blocks, and the other cells are as before.  A block of no cells can be read and written
anywhere, and nothing comes of it. -/
theorem memory_is_bounded (s : Session) (address : Int) :
    let m := s.machine.memory
    Guarded address 1 (m.read8 address) ∧
    Guarded address 2 (m.read16 address) ∧
    (∀ length, 1 ≤ length → Guarded address length (m.readBlock address length)) ∧
    (∀ length, length ≤ 0 → m.readBlock address length = .ok []) ∧
    (∀ byte, m.read8 address = .ok byte ↔ m.readBlock address 1 = .ok [byte]) ∧
    (∀ high low, m.read8 address = .ok high → m.read8 (address + 1) = .ok low →
      ∃ word, m.read16 address = .ok word ∧ word.toNat = 256 * high.toNat + low.toNat) ∧
    s.perform (.writeBlock address []) = some ⟨s, [], .ok .done⟩ ∧
    ∀ op values, op.Writes address values → values ≠ [] →
      (¬ Fits address values.length →
        s.perform op = some ⟨s, [], .error (.fault (misfit address values.length))⟩) ∧
      (Fits address values.length →
        ∃ memory, s.perform op =
            some ⟨{ s with machine := { s.machine with memory } }, [], .ok .done⟩ ∧
          m.Overwritten address values memory) := by
  intro m
  refine ⟨m.guarded_read8 address, m.guarded_read16 address,
    fun length some => m.guarded_readBlock address (by omega), fun length none => if_pos none,
    fun byte => read8_eq_ok_iff, fun high low => exists_read16, rfl, ?_⟩
  intro op values writes some
  have full : values.map Byte.ofInt ≠ [] := mt List.map_eq_nil_iff.mp some
  have guarded := m.guarded_writeBlock address full
  rw [List.length_map] at guarded
  rw [perform_of_writes writes]
  constructor
  · intro misfits
    rw [guarded.2 misfits]
    rfl
  · intro fits
    obtain ⟨memory, written⟩ := guarded.1.mpr fits
    refine ⟨memory, ?_, overwritten_of_writeBlock fits written⟩
    rw [written]
    rfl

/-- The last two cells are written with numbers that are no bytes, and read together with the cell in front.
One cell further there is no place for the second value. -/
theorem memory_is_bounded_end :
    let s := initial ⟨.listed [] 0, 0, false⟩
    (∃ memory, s.perform (.writeBlock 0xFFE [0x1FE, -1]) =
        some ⟨{ s with machine := { s.machine with memory } }, [], .ok .done⟩ ∧
      memory.readBlock 0xFFD 3 = .ok [0, 0xFE, 0xFF]) ∧
    s.perform (.writeBlock 0xFFF [0x1FE, -1]) =
      some ⟨s, [], .error (.fault (.outOfRange .memory 0x1000 0x1000))⟩ := by
  intro s
  obtain ⟨-, -, -, -, -, -, -, write⟩ := memory_is_bounded s 0xFFE
  obtain ⟨-, -, -, -, -, -, -, overrun⟩ := memory_is_bounded s 0xFFF
  obtain ⟨memory, performed, law⟩ :=
    (write (.writeBlock 0xFFE [0x1FE, -1]) _ ⟨rfl, rfl⟩ (by decide)).2 (by decide)
  obtain ⟨old, new, read, readBack, -, length, places⟩ := law.block 0xFFD 3 (by decide) (by decide)
  refine ⟨⟨memory, performed, readBack.trans ?_⟩, ?_⟩
  · have zeros : s.machine.memory.slice 0xFFD 3 = [0, 0, 0] := by decide +kernel
    rw [readBlock_eq_slice (by decide) (by decide)] at read
    cases read.symm.trans (congrArg Except.ok zeros)
    match new, length with
    | [a, b, c], _ =>
      have count : [a, b, c].length = 3 := rfl
      have front : a = 0 := (places 0 (by decide) (by omega)).2 (.inl (by decide))
      have first : (b.toNat : Int) = 0x1FE % 256 := (places 1 (by decide) (by omega)).1 0 (by decide) rfl
      have second : (c.toNat : Int) = -1 % 256 := (places 2 (by decide) (by omega)).1 1 (by decide) rfl
      have first : b = 0xFE := BitVec.eq_of_toNat_eq (Int.ofNat.inj first)
      have second : c = 0xFF := BitVec.eq_of_toNat_eq (Int.ofNat.inj second)
      rw [front, first, second]
  · exact (overrun (.writeBlock 0xFFF [0x1FE, -1]) _ ⟨rfl, rfl⟩ (by decide)).1 (by decide)

end Session

end Chip8
