import Chip8.Proofs.Accesses
import Chip8.Proofs.Frames

/-!
# Storing and loading again

Two words store a block of bytes in the cells from the index on: `FX55` the registers up to `VX`, and `FX33` the
decimal digits of `VX`.  `FX65` loads the registers up to `VX` from there.  None of the three moves the index.

So a program can put its registers aside.  However long the run is that follows, if it stores in none of those cells
and the index is back at the end, a load finds what was stored (`Session.Restores`).
-/

namespace Chip8

theorem Registers.getD_upTo (r : Registers) {x last : Register} (among : x.val ≤ last.val) :
    (r.upTo last).getD x.val 0 = r.get x := by
  have inside : x.val < (r.upTo last).length := by
    rw [r.length_upTo]
    omega
  rw [List.getD_eq_getElem?_getD, List.getElem?_eq_getElem inside, Option.getD_some]
  simp only [upTo, List.getElem_take, Vector.getElem_toList]
  rfl

/-! ### Steps -/

namespace Machine

variable {m : Machine} {word : Word}

/-- What there is after values have been stored in the first `count` cells from the index on. -/
structure Stored (m : Machine) (count : Nat) (value : Register → Byte) (after : Machine) : Prop where
  inside : ∀ x : Register, x.val < count → after.memory.get (m.registers.i.toNat + x.val) = value x
  outside : ∀ a, a < m.registers.i.toNat ∨ m.registers.i.toNat + count ≤ a →
    after.memory.get a = m.memory.get a
  index : after.registers.i = m.registers.i
  register : ∀ x, after.v x = m.v x

/-- What there is after the first `count` registers have been loaded from the cells from the index on. -/
structure Loaded (m : Machine) (count : Nat) (after : Machine) : Prop where
  among : ∀ x : Register, x.val < count → after.v x = m.memory.get (m.registers.i.toNat + x.val)
  behind : ∀ x : Register, count ≤ x.val → after.v x = m.v x
  index : after.registers.i = m.registers.i

/-- A word whose instruction stores bytes that fit is carried out. -/
theorem exists_step_of_stores {i : Instruction} {bytes : List Byte} {value : Register → Byte}
    (fetched : m.fetch = .ok word) (spells : i.spells word.toNat)
    (fits : m.registers.i.toNat + bytes.length ≤ 4096)
    (values : ∀ x : Register, x.val < bytes.length → bytes.getD x.val 0 = value x)
    (executed : m.execute i = .ok
      ({ m with memory := m.memory.store m.registers.i.toNat bytes }.goOn m.registers, [])) :
    ∃ p, m.step = .ok p ∧ p.word = word ∧ m.Stored bytes.length value p.machine := by
  have stepped := step_of_execute fetched (Instruction.ofWord?_of_spells spells) executed
  refine ⟨_, stepped, rfl, fun x inside => ?_, fun a outside => ?_, rfl, fun _ => rfl⟩
  · exact (m.memory.get_store_of_lt inside fits).trans (values x inside)
  · exact m.memory.get_store_of_outside _ a bytes outside

/-- Storing registers leaves their values from the index on. -/
theorem exists_step_of_storesRegisters (fetched : m.fetch = .ok word) (group : word.toNat / 4096 = 0xF)
    (low : word.toNat % 256 = 0x55) (fits : m.registers.i.toNat + word.toNat / 256 % 16 ≤ 0xFFF) :
    ∃ p, m.step = .ok p ∧ p.word = word ∧ m.Stored (word.toNat / 256 % 16 + 1) m.v p.machine := by
  let last := Register.ofNat (word.toNat / 256)
  have spells : (Instruction.storeRegisters last).spells word.toNat := ⟨⟨group, low⟩, rfl⟩
  have place : m.registers.i.toNat + (last.val + 1) ≤ 4096 := Nat.succ_le_succ fits
  have length : (m.registers.upTo last).length = word.toNat / 256 % 16 + 1 := m.registers.length_upTo last
  rw [← length]
  refine exists_step_of_stores fetched spells ?_ (fun x inside => ?_) (m.execute_storeRegisters last place)
  · rw [length]
    exact place
  · rw [length] at inside
    exact m.registers.getD_upTo (Nat.le_of_lt_succ inside)

theorem exists_step_of_storesDigits (fetched : m.fetch = .ok word) (group : word.toNat / 4096 = 0xF)
    (low : word.toNat % 256 = 0x33) (fits : m.registers.i.toNat + 2 ≤ 0xFFF) :
    ∃ p, m.step = .ok p ∧ p.word = word ∧
      m.Stored 3 (fun x => (decimalDigits (m.v (Register.ofNat (word.toNat / 256)))).getD x.val 0)
        p.machine := by
  let x := Register.ofNat (word.toNat / 256)
  have spells : (Instruction.storeDecimal x).spells word.toNat := ⟨⟨group, low⟩, rfl⟩
  have place : m.registers.i.toNat + 3 ≤ 4096 := Nat.succ_le_succ fits
  refine exists_step_of_stores fetched spells ?_ (fun _ _ => rfl) (m.execute_storeDecimal x place)
  exact place

theorem exists_step_of_loads (fetched : m.fetch = .ok word) (group : word.toNat / 4096 = 0xF)
    (low : word.toNat % 256 = 0x65) (fits : m.registers.i.toNat + word.toNat / 256 % 16 ≤ 0xFFF) :
    ∃ p, m.step = .ok p ∧ p.word = word ∧ m.Loaded (word.toNat / 256 % 16 + 1) p.machine := by
  let last := Register.ofNat (word.toNat / 256)
  have spells : (Instruction.loadRegisters last).spells word.toNat := ⟨⟨group, low⟩, rfl⟩
  have place : m.registers.i.toNat + (last.val + 1) ≤ 4096 := Nat.succ_le_succ fits
  have stepped := step_of_execute fetched (Instruction.ofWord?_of_spells spells)
    (m.execute_loadRegisters last place)
  have value (x : Register) :
      (m.registers.load (m.memory.slice m.registers.i.toNat (last.val + 1))).get x =
        if x.val < word.toNat / 256 % 16 + 1 then m.memory.get (m.registers.i.toNat + x.val)
        else m.v x := by
    rw [Registers.get_load, Memory.getD_slice]
    rfl
  have index := m.registers.i_load (m.memory.slice m.registers.i.toNat (last.val + 1))
  -- What is loaded has been looked up, and must not be computed.
  generalize m.registers.load _ = registers at stepped value index
  refine ⟨_, stepped, rfl, ?_, ?_, index⟩
  · exact fun x among => (value x).trans (if_pos among)
  · exact fun x behind => (value x).trans (if_neg (by omega))

end Machine

/-! ### Runs -/

namespace Session

/-- Whatever run follows, if it stores in none of the `count` cells from the index on, and the index is back at
the end, then the load of as many registers gives them these values. -/
def Restores (s : Session) (count : Nat) (value : Register → Byte) : Prop :=
  let i := s.machine.registers.i.toNat
  ∀ (turns : List Turn) (word : Word),
    (∀ earlier later, turns = earlier ++ .step :: later →
      ∀ a, i ≤ a → a < i + count → ¬ (s.play earlier).machine.Stores a) →
    let t := s.play turns
    t.machine.registers.i = s.machine.registers.i → t.machine.fetch = .ok word →
    word.toNat / 4096 = 0xF → word.toNat % 256 = 0x65 → word.toNat / 256 % 16 + 1 = count →
      let o := t.step .silent
      o.result = .ok word ∧
        (∀ x : Register, x.val < count → o.state.machine.v x = value x) ∧
        (∀ x : Register, count ≤ x.val → o.state.machine.v x = t.machine.v x) ∧
        o.state.machine.registers.i = t.machine.registers.i

theorem step_silent_of_ok {s : Session} {p : Machine.Progress} (stepped : s.machine.step = .ok p) :
    (s.step .silent).result = .ok p.word ∧ (s.step .silent).state.machine = p.machine := by
  rw [step_silent, stepped]
  exact ⟨rfl, rfl⟩

/-- What has just been stored is what will be loaded. -/
theorem restores_of_stored {s : Session} {m : Machine} {count : Nat} {value : Register → Byte}
    (stored : m.Stored count value s.machine) (fits : m.registers.i.toNat + count ≤ 4096) :
    s.Restores count value := by
  unfold Restores
  rw [stored.index]
  intro i turns word spared t back fetched group low number o
  have start : t.machine.registers.i.toNat = i := congrArg BitVec.toNat back
  obtain ⟨p, stepped, rfl, loaded⟩ := Machine.exists_step_of_loads fetched group low (by omega)
  obtain ⟨result, machine⟩ := step_silent_of_ok stepped
  rw [number, ← machine] at loaded
  refine ⟨result, fun x among => ?_, loaded.behind, loaded.index⟩
  have survives : t.machine.memory.get (i + x.val) = s.machine.memory.get (i + x.val) :=
    get_play fun earlier later split => spared earlier later split _ (by omega) (by omega)
  have found := loaded.among x among
  rw [start, survives] at found
  exact found.trans (stored.inside x among)

/-- A word that stores the registers up to `VX` puts each of them into its cell.  They come back from there,
whatever the run in between does elsewhere.  A word that stores the digits of `VX` puts three of them into the
cells, from which they can be loaded in the same way.  Neither changes another cell, a register or the index. -/
theorem stored_values_come_back (s : Session) {word : Word} (fetched : s.machine.fetch = .ok word)
    (group : word.toNat / 4096 = 0xF) :
    let m := s.machine
    let i := m.registers.i.toNat
    let x := word.toNat / 256 % 16
    let o := s.step .silent
    let after := o.state.machine
    (word.toNat % 256 = 0x55 → i + x ≤ 0xFFF →
      o.result = .ok word ∧
      (∀ j : Register, j.val ≤ x → after.memory.get (i + j.val) = m.v j) ∧
      (∀ a, a < i ∨ i + x < a → after.memory.get a = m.memory.get a) ∧
      (∀ j, after.v j = m.v j) ∧ after.registers.i = m.registers.i ∧
      o.state.Restores (x + 1) m.v) ∧
    (word.toNat % 256 = 0x33 → i + 2 ≤ 0xFFF →
      o.result = .ok word ∧
      let digit k := (after.memory.get (i + k)).toNat
      (∀ k < 3, digit k ≤ 9) ∧
      100 * digit 0 + 10 * digit 1 + digit 2 = (m.v (Register.ofNat (word.toNat / 256))).toNat ∧
      (∀ a, a < i ∨ i + 2 < a → after.memory.get a = m.memory.get a) ∧
      (∀ j, after.v j = m.v j) ∧ after.registers.i = m.registers.i ∧
      o.state.Restores 3 fun j => after.memory.get (i + j.val)) := by
  intro m i x o after
  constructor
  · intro low fits
    obtain ⟨p, stepped, rfl, stored⟩ := Machine.exists_step_of_storesRegisters fetched group low fits
    obtain ⟨result, machine⟩ := step_silent_of_ok stepped
    rw [← machine] at stored
    refine ⟨result, fun j among => ?_, fun a outside => ?_, stored.register, stored.index, ?_⟩
    · exact stored.inside j (Nat.lt_succ_of_le among)
    · exact stored.outside a outside
    · exact restores_of_stored stored (Nat.succ_le_succ fits)
  · intro low fits
    obtain ⟨p, stepped, rfl, stored⟩ := Machine.exists_step_of_storesDigits fetched group low fits
    obtain ⟨result, machine⟩ := step_silent_of_ok stepped
    rw [← machine] at stored
    have cell (k : Nat) (place : k < 3) : after.memory.get (i + k) =
        (Machine.decimalDigits (m.v (Register.ofNat (p.word.toNat / 256)))).getD k 0 :=
      stored.inside ⟨k, by omega⟩ place
    have found : m.Stored 3 (fun j => after.memory.get (i + j.val)) after :=
      { stored with inside := fun _ _ => rfl }
    refine ⟨result, ?_, ?_, fun a outside => ?_, stored.register, stored.index, ?_⟩
    · intro k place
      show (after.memory.get (i + k)).toNat ≤ 9
      rw [cell k place]
      exact Machine.decimalDigits_le _ place
    · show 100 * (after.memory.get (i + 0)).toNat + 10 * (after.memory.get (i + 1)).toNat +
        (after.memory.get (i + 2)).toNat = _
      rw [cell 0 (by decide), cell 1 (by decide), cell 2 (by decide)]
      exact Machine.sum_decimalDigits _
    · exact stored.outside a outside
    · exact restores_of_stored found (Nat.succ_le_succ fits)

/-- A program that puts `V0` and `V1` aside, loses `V0`, stores some digits elsewhere, and loads the two again. -/
theorem stored_values_come_back_aside :
    let program : List Byte := [0x60, 0x07, 0x61, 0x09, 0xA3, 0x00, 0xF1, 0x55, 0x60, 0x01, 0xA4, 0x00,
      0xF0, 0x33, 0xA3, 0x00, 0xF1, 0x65]
    let s := ((initial ⟨.listed [] 0, 0, false⟩).load program).state.play [.step, .step, .step]
    let t := (s.step .silent).state.play [.step, .press 3, .step, .step, .step]
    s.machine.fetch = .ok 0xF155 ∧ t.machine.v 0 = 1 ∧ (t.step .silent).result = .ok 0xF165 ∧
      (t.step .silent).state.machine.v 0 = 7 ∧ (t.step .silent).state.machine.v 1 = 9 := by
  intro program
  have facts :
      let s := ((initial ⟨.listed [] 0, 0, false⟩).load program).state.play [.step, .step, .step]
      let between : List Turn := [.step, .press 3, .step, .step, .step]
      let t := (s.step .silent).state.play between
      s.machine.registers.pc.toNat ≤ 0xFFE ∧ s.machine.nextWord = 0xF155 ∧
      s.machine.registers.i = 0x300 ∧ s.machine.v 0 = 7 ∧ s.machine.v 1 = 9 ∧
      t.machine.registers.pc.toNat ≤ 0xFFE ∧ t.machine.nextWord = 0xF165 ∧
      t.machine.registers.i = 0x300 ∧ t.machine.v 0 = 1 ∧
      ∀ k < 5, ((s.step .silent).state.play (between.take k)).machine.nextWord.toNat / 4096 = 0xF →
        ((s.step .silent).state.play (between.take k)).machine.registers.i = 0x400 := by
    decide +kernel
  generalize ((initial ⟨.listed [] 0, 0, false⟩).load program).state.play [.step, .step, .step] = s
    at facts ⊢
  dsimp only at facts ⊢
  obtain ⟨inside, found, index, seven, nine, inside', found', back, one, away⟩ := facts
  have fetched := Machine.fetch_of_inside inside found
  obtain ⟨store, -⟩ := stored_values_come_back s fetched (by decide)
  rw [index] at store
  obtain ⟨-, -, -, -, kept, restores⟩ := store (by decide) (by decide)
  unfold Restores at restores
  rw [kept, show (0x300 : Word).toNat = 0x300 from rfl,
    show (0xF155 : Word).toNat / 256 % 16 + 1 = 2 from rfl] at restores
  have spared (earlier later : List Turn)
      (split : [.step, .press 3, .step, .step, .step] = earlier ++ .step :: later) (a : Nat)
      (low : 0x300 ≤ a) (high : a < 0x302) : ¬ ((s.step .silent).state.play earlier).machine.Stores a := by
    rintro ⟨-, group, cells⟩
    have taken : earlier = [.step, .press 3, .step, .step, .step].take earlier.length := by
      rw [split, List.take_left]
    have short : 5 = earlier.length + (later.length + 1) := by
      have := congrArg List.length split
      rwa [List.length_append] at this
    rw [taken] at group cells
    rw [away _ (by omega) group] at cells
    have start : 0x400 ≤ a := cells.elim (·.2.1) (·.2.1)
    omega
  obtain ⟨result, values, -, -⟩ := restores _ 0xF165 spared back
    (Machine.fetch_of_inside inside' found') (by decide) (by decide) (by decide)
  exact ⟨fetched, one, result, (values 0 (by decide)).trans seven, (values 1 (by decide)).trans nine⟩

end Session

end Chip8
