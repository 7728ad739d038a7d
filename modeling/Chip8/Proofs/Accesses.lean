import Chip8.Proofs.Parts

/-!
# Accesses that fit

An access to the memory goes through if its cells exist, and a block of no cells is one that can be read
anywhere.  What the lemmas say of the memory comes first, and then what the instructions do that read or
write a block that fits.  One of them writes the three digits of a number.
-/

namespace Chip8

namespace Memory

/-- A range that is not empty is accepted exactly if it lies in the memory. -/
theorem checkRange_eq_ok_iff (address length : Int) (positive : 0 < length) :
    checkRange address length = .ok () ↔ 0 ≤ address ∧ address + length ≤ 0x1000 := by
  unfold checkRange memorySize
  constructor
  · intro h
    split at h
    · cases h
    · split at h
      · cases h
      · omega
  · intro h
    rw [if_neg (by omega), if_neg (by omega)]

variable (m : Memory) {address length : Nat} {bytes : List Byte}

theorem readBlock_of_fits (fits : length = 0 ∨ address + length ≤ 4096) :
    m.readBlock address length = .ok (m.slice address length) := by
  unfold readBlock
  rcases Nat.eq_zero_or_pos length with rfl | some
  · rfl
  · have inside := (checkRange_eq_ok_iff address length (by omega)).mpr (by omega)
    rw [if_neg (by omega), inside]
    rfl

theorem writeBlock_of_fits (some : 0 < bytes.length) (fits : address + bytes.length ≤ 4096) :
    m.writeBlock address bytes = .ok (m.store address bytes) := by
  have inside := (checkRange_eq_ok_iff address bytes.length (by omega)).mpr (by omega)
  have full : ¬ bytes.isEmpty = true := by
    rw [List.isEmpty_iff_length_eq_zero]
    omega
  unfold writeBlock
  rw [if_neg full, inside]
  rfl

theorem get_store_of_lt {k : Nat} (inside : k < bytes.length) (fits : address + bytes.length ≤ 4096) :
    (m.store address bytes).get (address + k) = bytes.getD k 0 := by
  rw [get_store_of_inside m address k bytes inside fits, List.getD_eq_getElem?_getD,
    List.getElem?_eq_getElem inside]
  rfl

theorem getD_slice (k : Nat) (fallback : Byte) :
    (m.slice address length).getD k fallback =
      if k < length then m.get (address + k) else fallback := by
  unfold slice
  rw [List.getD_eq_getElem?_getD, List.getElem?_map]
  by_cases inside : k < length
  · rw [List.getElem?_range inside, if_pos inside]
    rfl
  · rw [List.getElem?_eq_none (by simpa using inside), if_neg inside]
    rfl

/-- What has been stored is read back. -/
theorem slice_store (fits : address + bytes.length ≤ 4096) :
    (m.store address bytes).slice address bytes.length = bytes := by
  unfold slice
  refine List.ext_getElem (by rw [List.length_map, List.length_range]) fun k _ inside => ?_
  rw [List.getElem_map, List.getElem_range, get_store_of_inside m address k bytes inside fits]

/-- A slice has a byte that is not zero where the memory has one. -/
theorem any_slice (address length : Nat) :
    (m.slice address length).any (· != 0) = true ↔ ∃ k < length, m.get (address + k) ≠ 0 := by
  unfold slice
  rw [List.any_eq_true]
  constructor
  · rintro ⟨byte, member, some⟩
    obtain ⟨k, inside, rfl⟩ := List.mem_map.mp member
    exact ⟨k, List.mem_range.mp inside, bne_iff_ne.mp some⟩
  · rintro ⟨k, inside, some⟩
    exact ⟨_, List.mem_map_of_mem (List.mem_range.mpr inside), bne_iff_ne.mpr some⟩

end Memory

namespace Machine

theorem decimalDigits_le (b : Byte) {k : Nat} (place : k < 3) : ((decimalDigits b).getD k 0).toNat ≤ 9 := by
  have bound := b.isLt
  match k with
  | 0 | 1 | 2 =>
    simp [decimalDigits]
    omega

/-- The three digits of a byte stand for it. -/
theorem sum_decimalDigits (b : Byte) :
    100 * ((decimalDigits b).getD 0 0).toNat + 10 * ((decimalDigits b).getD 1 0).toNat +
      ((decimalDigits b).getD 2 0).toNat = b.toNat := by
  have bound := b.isLt
  simp [decimalDigits]
  omega

variable (m : Machine)

/-- Drawing reads its rows before it changes anything. -/
theorem execute_drawSprite (x y : Register) (height : Fin 16) {erased : Bool} {screen : Screen}
    (fits : height.val = 0 ∨ m.registers.i.toNat + height.val ≤ 4096)
    (drawn : m.screen.drawSprite (m.v x).toNat (m.v y).toNat
      (m.memory.slice m.registers.i.toNat height.val) = (erased, screen)) :
    m.execute (.drawSprite x y height) =
      .ok ({ m with screen }.goOn (m.registers.setFlag erased), []) := by
  rw [execute, m.memory.readBlock_of_fits fits]
  dsimp only
  rw [drawn]

theorem execute_storeDecimal (x : Register) (fits : m.registers.i.toNat + 3 ≤ 4096) :
    m.execute (.storeDecimal x) =
      .ok ({ m with
        memory := m.memory.store m.registers.i.toNat (decimalDigits (m.v x)) }.goOn m.registers, []) := by
  have three : (decimalDigits (m.v x)).length = 3 := rfl
  rw [execute, m.memory.writeBlock_of_fits (by omega) (by omega)]

theorem execute_storeRegisters (last : Register)
    (fits : m.registers.i.toNat + (last.val + 1) ≤ 4096) :
    m.execute (.storeRegisters last) =
      .ok ({ m with
        memory := m.memory.store m.registers.i.toNat (m.registers.upTo last) }.goOn m.registers, []) := by
  have length := m.registers.length_upTo last
  rw [execute, m.memory.writeBlock_of_fits (by omega) (by omega)]

theorem execute_loadRegisters (last : Register)
    (fits : m.registers.i.toNat + (last.val + 1) ≤ 4096) :
    m.execute (.loadRegisters last) =
      .ok (m.goOn (m.registers.load (m.memory.slice m.registers.i.toNat (last.val + 1))), []) := by
  have read := m.memory.readBlock_of_fits (.inr fits)
  rw [execute]
  rw [show ((last.val + 1 : Nat) : Int) = last.val + 1 from rfl] at read
  rw [read]

end Machine

end Chip8
