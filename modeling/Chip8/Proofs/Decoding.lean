import Chip8.Instruction

/-!
# Which words spell an instruction

`Instruction.ofWord?` takes a word apart from the top.  The table here goes the other way: for every
instruction it says, in numbers, which words spell it.  `Instruction.ofWord?_eq_some_iff` proves that
the two agree, so a word spells at most one instruction, and `Instruction.isSome_ofWord?_iff` says which
words spell one at all.
-/

namespace Chip8.Instruction

/-- The words that spell a skip: by the group, or in group E by the low byte. -/
def spellsSkip (w : Nat) : Condition → Prop
  | .isByte x value => w / 4096 = 3 ∧ x.val = w / 256 % 16 ∧ value.toNat = w % 256
  | .isNotByte x value => w / 4096 = 4 ∧ x.val = w / 256 % 16 ∧ value.toNat = w % 256
  | .same x y => w / 4096 = 5 ∧ x.val = w / 256 % 16 ∧ y.val = w / 16 % 16
  | .notSame x y => w / 4096 = 9 ∧ x.val = w / 256 % 16 ∧ y.val = w / 16 % 16
  | .keyDown x => (w / 4096 = 0xE ∧ w % 256 = 0x9E) ∧ x.val = w / 256 % 16
  | .keyUp x => (w / 4096 = 0xE ∧ w % 256 = 0xA1) ∧ x.val = w / 256 % 16

/-- The words that spell an instruction. -/
def spells (w : Nat) : Instruction → Prop
  | .clearScreen => w / 4096 = 0 ∧ w % 256 = 0xE0
  | .ret => w / 4096 = 0 ∧ w % 256 = 0xEE
  | .jump target => w / 4096 = 1 ∧ target.toNat = w % 4096
  | .call target => w / 4096 = 2 ∧ target.toNat = w % 4096
  | .skip condition => spellsSkip w condition
  | .setByte x value => w / 4096 = 6 ∧ x.val = w / 256 % 16 ∧ value.toNat = w % 256
  | .addByte x value => w / 4096 = 7 ∧ x.val = w / 256 % 16 ∧ value.toNat = w % 256
  | .alu op x y =>
    (w / 4096 = 8 ∧ aluOp? (w % 16) = some op) ∧ x.val = w / 256 % 16 ∧ y.val = w / 16 % 16
  | .setIndex address => w / 4096 = 0xA ∧ address.toNat = w % 4096
  | .random x mask => w / 4096 = 0xC ∧ x.val = w / 256 % 16 ∧ mask.toNat = w % 256
  | .drawSprite x y height =>
    w / 4096 = 0xD ∧ x.val = w / 256 % 16 ∧ y.val = w / 16 % 16 ∧ height.val = w % 16
  | .readDelay x => (w / 4096 = 0xF ∧ w % 256 = 0x07) ∧ x.val = w / 256 % 16
  | .waitForKey => w / 4096 = 0xF ∧ w % 256 = 0x0A
  | .setDelay x => (w / 4096 = 0xF ∧ w % 256 = 0x15) ∧ x.val = w / 256 % 16
  | .setSound x => (w / 4096 = 0xF ∧ w % 256 = 0x18) ∧ x.val = w / 256 % 16
  | .addToIndex x => (w / 4096 = 0xF ∧ w % 256 = 0x1E) ∧ x.val = w / 256 % 16
  | .pointAtGlyph x => (w / 4096 = 0xF ∧ w % 256 = 0x29) ∧ x.val = w / 256 % 16
  | .storeDecimal x => (w / 4096 = 0xF ∧ w % 256 = 0x33) ∧ x.val = w / 256 % 16
  | .storeRegisters last => (w / 4096 = 0xF ∧ w % 256 = 0x55) ∧ last.val = w / 256 % 16
  | .loadRegisters last => (w / 4096 = 0xF ∧ w % 256 = 0x65) ∧ last.val = w / 256 % 16

/-- Within group F the low byte decides. -/
theorem spells_of_ofGroupF? {w : Word} {i : Instruction} (group : w.toNat / 4096 = 0xF)
    (h : ofGroupF? (Word.x w) (Word.nn w).toNat = some i) : i.spells w.toNat := by
  have hx := Word.val_x w
  have hn := Word.toNat_nn w
  unfold ofGroupF? at h
  split at h <;> simp only [Option.some.injEq, reduceCtorEq] at h <;> subst h
  all_goals simp only [spells]; omega

/-- A word spells the instruction that is read from it. -/
theorem spells_of_ofWord? {w : Word} {i : Instruction} (h : ofWord? w = some i) :
    i.spells w.toNat := by
  have hg := Word.val_group w
  have hx := Word.val_x w
  have hy := Word.val_y w
  have hn := Word.toNat_nn w
  have hv := Word.val_n w
  have ha := Word.toNat_nnn w
  simp only [ofWord?] at h
  split at h
  case h_1 group =>
    split at h <;> simp only [Option.some.injEq, reduceCtorEq] at h <;> subst h
    all_goals simp only [spells]; omega
  case h_9 group =>
    obtain ⟨op, hop, rfl⟩ := Option.map_eq_some_iff.mp h
    rw [hv] at hop
    exact ⟨⟨by omega, hop⟩, hx, hy⟩
  case h_14 group =>
    split at h <;> simp only [Option.some.injEq, reduceCtorEq] at h <;> subst h
    all_goals simp only [spells, spellsSkip]; omega
  case h_15 group => exact spells_of_ofGroupF? (by omega) h
  case h_16 => cases h
  -- In every other group the group alone decides.
  all_goals
    simp only [Option.some.injEq] at h
    subst h
    simp only [spells, spellsSkip]
    omega

/-- No other instruction is read from a word than the one that it spells. -/
theorem ofWord?_of_spells {w : Word} {i : Instruction} (h : i.spells w.toNat) :
    ofWord? w = some i := by
  have hg := Word.val_group w
  have hv := Word.val_n w
  have hn := Word.toNat_nn w
  have eqX {x : Register} (e : x.val = w.toNat / 256 % 16) : Word.x w = x :=
    Fin.ext ((Word.val_x w).trans e.symm)
  have eqY {y : Register} (e : y.val = w.toNat / 16 % 16) : Word.y w = y :=
    Fin.ext ((Word.val_y w).trans e.symm)
  have eqN {height : Fin 16} (e : height.val = w.toNat % 16) : Word.n w = height :=
    Fin.ext (hv.trans e.symm)
  have eqNN {value : Byte} (e : value.toNat = w.toNat % 256) : Word.nn w = value :=
    BitVec.eq_of_toNat_eq (hn.trans e.symm)
  have eqNNN {target : Word} (e : target.toNat = w.toNat % 4096) : Word.nnn w = target :=
    BitVec.eq_of_toNat_eq ((Word.toNat_nnn w).trans e.symm)
  cases i with
  | clearScreen | ret => simp only [ofWord?, hg, hn, h.1, h.2]
  | jump target | call target | setIndex address => simp only [ofWord?, hg, h.1, eqNNN h.2]
  | setByte x value | addByte x value | random x mask =>
    simp only [ofWord?, hg, h.1, eqX h.2.1, eqNN h.2.2]
  | skip condition =>
    cases condition with
    | isByte x value | isNotByte x value =>
      simp only [ofWord?, hg, h.1, eqX h.2.1, eqNN h.2.2]
    | same x y | notSame x y => simp only [ofWord?, hg, h.1, eqX h.2.1, eqY h.2.2]
    | keyDown x | keyUp x => simp only [ofWord?, hg, hn, h.1.1, h.1.2, eqX h.2]
  | alu op x y =>
    simp only [ofWord?, hg, hv, h.1.1, h.1.2, eqX h.2.1, eqY h.2.2, Option.map_some]
  | drawSprite x y height =>
    simp only [ofWord?, hg, h.1, eqX h.2.1, eqY h.2.2.1, eqN h.2.2.2]
  | waitForKey => simp only [ofWord?, ofGroupF?, hg, hn, h.1, h.2]
  | readDelay x | setDelay x | setSound x | addToIndex x | pointAtGlyph x | storeDecimal x
  | storeRegisters x | loadRegisters x =>
    simp only [ofWord?, ofGroupF?, hg, hn, h.1.1, h.1.2, eqX h.2]

/-- The table and the function agree. -/
theorem ofWord?_eq_some_iff {w : Word} {i : Instruction} :
    ofWord? w = some i ↔ i.spells w.toNat :=
  ⟨spells_of_ofWord?, ofWord?_of_spells⟩

/-- A word spells one instruction at most. -/
theorem eq_of_spells {w : Word} {i j : Instruction} (hi : i.spells w.toNat) (hj : j.spells w.toNat) :
    i = j :=
  Option.some.inj ((ofWord?_of_spells hi).symm.trans (ofWord?_of_spells hj))

/-! ### The instruction set -/

/-- The words that spell an instruction: all of the groups 1 to 7, 9, A, C and D, and some of the
groups 0, 8, E and F. -/
def InSet (w : Nat) : Prop :=
  w / 4096 ∈ [1, 2, 3, 4, 5, 6, 7, 9, 0xA, 0xC, 0xD] ∨
  w / 4096 = 0 ∧ w % 256 ∈ [0xE0, 0xEE] ∨
  w / 4096 = 8 ∧ w % 16 ∈ [0, 1, 2, 3, 4, 5, 6, 7, 0xE] ∨
  w / 4096 = 0xE ∧ w % 256 ∈ [0x9E, 0xA1] ∨
  w / 4096 = 0xF ∧ w % 256 ∈ [0x07, 0x0A, 0x15, 0x18, 0x1E, 0x29, 0x33, 0x55, 0x65]

instance (w : Nat) : Decidable (InSet w) := inferInstanceAs (Decidable (_ ∨ _))

theorem isSome_aluOp?_iff (nibble : Nat) :
    (aluOp? nibble).isSome ↔ nibble ∈ [0, 1, 2, 3, 4, 5, 6, 7, 0xE] := by
  unfold aluOp?
  split <;> simp_all

theorem isSome_ofGroupF?_iff (x : Register) (low : Nat) :
    (ofGroupF? x low).isSome ↔
      low ∈ [0x07, 0x0A, 0x15, 0x18, 0x1E, 0x29, 0x33, 0x55, 0x65] := by
  unfold ofGroupF?
  split <;> simp_all

/-- The instruction set, by the digits of the words. -/
theorem isSome_ofWord?_iff (w : Word) : (ofWord? w).isSome ↔ InSet w.toNat := by
  have hg := Word.val_group w
  have hn := Word.toNat_nn w
  have hv := Word.val_n w
  have hk : w.toNat / 4096 < 16 := by have := w.isLt; omega
  simp only [ofWord?, InSet, hg, hn, hv]
  generalize w.toNat / 4096 = group at hk
  -- One case for each of the sixteen groups.
  split
  case h_1 => split <;> simp_all
  case h_9 => simp [isSome_aluOp?_iff]
  case h_14 => split <;> simp_all
  case h_15 => simp [isSome_ofGroupF?_iff]
  case h_16 => simp_all
  all_goals simp

end Chip8.Instruction
