/-!
# Bytes, words and operand fields

The machine computes with 8-bit bytes and 16-bit words.  An instruction is one word, and its
operands are fixed groups of its bits:

    15    12 11     8 7      4 3      0
    [ group ] [  x   ] [  y   ] [  n   ]
                       [      nn       ]
              [          nnn          ]

All arithmetic wraps at the width of the type, so a register, an address or a stack entry can never
leave its range.
-/

namespace Chip8

/-- A memory cell, a `V` register or a timer. -/
abbrev Byte := BitVec 8

/-- An instruction, an address register or a stack entry. -/
abbrev Word := BitVec 16

/-- The number of one of the registers `V0` to `VF`. -/
abbrev Register := Fin 16

/-- The number of one of the sixteen keys. -/
abbrev Key := Fin 16

/-- `VF`, which also receives carries, borrows, shifted-out bits and collisions. -/
def Register.flag : Register := 15

/-- The register whose number is the low four bits of `n`. -/
def Register.ofNat (n : Nat) : Register := ⟨n % 16, Nat.mod_lt n (by decide)⟩

/-- The key whose number is the low four bits of `n`. -/
def Key.ofNat (n : Nat) : Key := ⟨n % 16, Nat.mod_lt n (by decide)⟩

/-- The byte with the same low eight bits as `value`, in two's complement. -/
def Byte.ofInt (value : Int) : Byte := BitVec.ofInt 8 value

namespace Word

/-- The word with the same low sixteen bits as `value`, in two's complement. -/
def ofInt (value : Int) : Word := BitVec.ofInt 16 value

/-- The big-endian word of two consecutive bytes. -/
def ofBytes (high low : Byte) : Word := high ++ low

/-- Bits 12 to 15: the instruction group. -/
def group (w : Word) : Fin 16 := (w.extractLsb' 12 4).toFin

/-- Bits 8 to 11: the first register operand. -/
def x (w : Word) : Register := (w.extractLsb' 8 4).toFin

/-- Bits 4 to 7: the second register operand. -/
def y (w : Word) : Register := (w.extractLsb' 4 4).toFin

/-- Bits 0 to 3: a small count. -/
def n (w : Word) : Fin 16 := (w.extractLsb' 0 4).toFin

/-- Bits 0 to 7: an immediate byte. -/
def nn (w : Word) : Byte := w.extractLsb' 0 8

/-- Bits 0 to 11: an address. -/
def nnn (w : Word) : Word := (w.extractLsb' 0 12).setWidth 16

/-! ### The fields as numbers -/

theorem toNat_ofBytes (high low : Byte) : (ofBytes high low).toNat = 256 * high.toNat + low.toNat := by
  have := low.isLt
  unfold ofBytes
  rw [BitVec.toNat_append, Nat.shiftLeft_eq, Nat.mul_comm, Nat.two_pow_add_eq_or_of_lt this]

theorem val_group (w : Word) : (group w).val = w.toNat / 4096 := by
  have := w.isLt
  simp only [group, BitVec.toFin_extractLsb', Fin.val_ofNat, Nat.shiftRight_eq_div_pow]
  omega

theorem val_x (w : Word) : (x w).val = w.toNat / 256 % 16 := by
  simp [x, Nat.shiftRight_eq_div_pow]

theorem val_y (w : Word) : (y w).val = w.toNat / 16 % 16 := by
  simp [y, Nat.shiftRight_eq_div_pow]

theorem val_n (w : Word) : (n w).val = w.toNat % 16 := by
  simp [n]

theorem toNat_nn (w : Word) : (nn w).toNat = w.toNat % 256 := by
  simp [nn]

theorem toNat_nnn (w : Word) : (nnn w).toNat = w.toNat % 4096 := by
  have := w.isLt
  simp [nnn]
  omega

end Word

end Chip8
