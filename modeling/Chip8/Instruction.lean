import Chip8.Word

/-!
# The instruction set

`Instruction` is what a program can ask the machine to do, its operands already taken apart, and
`Instruction.ofWord?` reads it from a word.  Groups 0, E and F are told apart by the low byte alone
and group 8 by the low nibble; the bits that an instruction does not use may have any value.
-/

namespace Chip8

/-- What the instructions of group 8 do with two registers. -/
inductive AluOp where
  /-- `VX` becomes `VY`. -/
  | copy
  | or
  | and
  | xor
  | add
  /-- `VX` loses `VY`. -/
  | sub
  /-- `VY` is halved. -/
  | halve
  /-- `VX` becomes `VY` less `VX`. -/
  | subFrom
  /-- `VY` is doubled. -/
  | double
  deriving DecidableEq, Repr

/-- What a skip asks before it passes over the next instruction. -/
inductive Condition where
  | isByte (x : Register) (value : Byte)
  | isNotByte (x : Register) (value : Byte)
  | same (x y : Register)
  | notSame (x y : Register)
  /-- The key that `VX` names is down. -/
  | keyDown (x : Register)
  /-- The key that `VX` names is up. -/
  | keyUp (x : Register)
  deriving DecidableEq, Repr

/-- An instruction with its operands. -/
inductive Instruction where
  | clearScreen
  | ret
  | jump (target : Word)
  | call (target : Word)
  | skip (condition : Condition)
  | setByte (x : Register) (value : Byte)
  | addByte (x : Register) (value : Byte)
  | alu (op : AluOp) (x y : Register)
  | setIndex (address : Word)
  | random (x : Register) (mask : Byte)
  | drawSprite (x y : Register) (height : Fin 16)
  | readDelay (x : Register)
  /-- Goes on only while some key is down. -/
  | waitForKey
  | setDelay (x : Register)
  | setSound (x : Register)
  | addToIndex (x : Register)
  /-- Points the index at the glyph of the digit in `VX`. -/
  | pointAtGlyph (x : Register)
  /-- Stores the three decimal digits of `VX`. -/
  | storeDecimal (x : Register)
  /-- Stores `V0` to `VX`. -/
  | storeRegisters (last : Register)
  /-- Loads `V0` to `VX`. -/
  | loadRegisters (last : Register)
  deriving DecidableEq, Repr

namespace Instruction

/-- The operation of group 8 with the given low nibble. -/
def aluOp? : Nat → Option AluOp
  | 0x0 => some .copy
  | 0x1 => some .or
  | 0x2 => some .and
  | 0x3 => some .xor
  | 0x4 => some .add
  | 0x5 => some .sub
  | 0x6 => some .halve
  | 0x7 => some .subFrom
  | 0xE => some .double
  | _ => none

/-- The instruction of group F with the given low byte. -/
def ofGroupF? (x : Register) : Nat → Option Instruction
  | 0x07 => some (.readDelay x)
  | 0x0A => some .waitForKey
  | 0x15 => some (.setDelay x)
  | 0x18 => some (.setSound x)
  | 0x1E => some (.addToIndex x)
  | 0x29 => some (.pointAtGlyph x)
  | 0x33 => some (.storeDecimal x)
  | 0x55 => some (.storeRegisters x)
  | 0x65 => some (.loadRegisters x)
  | _ => none

/-- The instruction that a word spells, if it spells one. -/
def ofWord? (w : Word) : Option Instruction :=
  let x := Word.x w
  let y := Word.y w
  let nn := Word.nn w
  let nnn := Word.nnn w
  match (Word.group w).val with
  | 0x0 =>
    match nn.toNat with
    | 0xE0 => some .clearScreen
    | 0xEE => some .ret
    | _ => none
  | 0x1 => some (.jump nnn)
  | 0x2 => some (.call nnn)
  | 0x3 => some (.skip (.isByte x nn))
  | 0x4 => some (.skip (.isNotByte x nn))
  | 0x5 => some (.skip (.same x y))
  | 0x6 => some (.setByte x nn)
  | 0x7 => some (.addByte x nn)
  | 0x8 => (aluOp? (Word.n w).val).map fun op => .alu op x y
  | 0x9 => some (.skip (.notSame x y))
  | 0xA => some (.setIndex nnn)
  | 0xC => some (.random x nn)
  | 0xD => some (.drawSprite x y (Word.n w))
  | 0xE =>
    match nn.toNat with
    | 0x9E => some (.skip (.keyDown x))
    | 0xA1 => some (.skip (.keyUp x))
    | _ => none
  | 0xF => ofGroupF? x nn.toNat
  | _ => none

end Instruction

end Chip8
