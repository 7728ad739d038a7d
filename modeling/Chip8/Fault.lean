import Chip8.Text.Hex

/-!
# Faults

A fault is what stops an instruction: the word is no instruction, the call stack is full or empty,
or a number lies outside the memory, the keypad or the screen.  `Fault.message` is the one place
where their wording is written.
-/

namespace Chip8

/-- What a number was outside of. -/
inductive Area where
  | memory
  | keypad
  | screenColumn
  | screenRow
  | other (name : String)
  deriving DecidableEq, Repr

/-- The name of an area in messages. -/
def Area.name : Area → String
  | .memory => "memory"
  | .keypad => "keypad"
  | .screenColumn => "framebuffer x"
  | .screenRow => "framebuffer y"
  | .other name => name

/-- The cause of a fault. -/
inductive Fault where
  /-- The word, met at the address if that is known, is no instruction. -/
  | invalidOpcode (word : Int) (address : Option Int)
  /-- The call at the address finds `depth` calls already open. -/
  | stackOverflow (address depth : Int)
  /-- The return at the address finds no open call. -/
  | stackUnderflow (address : Int)
  /-- The index is not one of the `limit` places of the area. -/
  | outOfRange (area : Area) (index limit : Int)
  deriving DecidableEq, Repr

/-- The wording of a fault. -/
def Fault.message : Fault → String
  | .invalidOpcode word none => "Invalid opcode: 0x" ++ Hex.padded 4 word
  | .invalidOpcode word (some address) =>
    "Invalid opcode: 0x" ++ Hex.padded 4 word ++ " at PC=0x" ++ Hex.padded 3 address
  | .stackOverflow address depth =>
    "Stack overflow: call depth exceeds " ++ toString depth ++ " at PC=0x" ++ Hex.padded 3 address
  | .stackUnderflow address =>
    "Stack underflow: return with empty stack at PC=0x" ++ Hex.padded 3 address
  | .outOfRange area index limit =>
    "Out of range " ++ area.name ++ " access: 0x" ++ Hex.padded 1 index ++
      " (limit 0x" ++ Hex.padded 1 limit ++ ")"

end Chip8
