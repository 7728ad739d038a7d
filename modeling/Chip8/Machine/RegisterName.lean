import Chip8.Machine
import Chip8.Text.Digit

/-!
# Registers by name

`PC`, `I`, `SP`, `DT`, `ST` and `V0` to `VF`, in any case of letters.  A letter counts as the plain
capital that it has, so the dotless i and the long s are an `I` and an `S`, and the ligatures of s and
t are an `S` and a `T`; the digit after `V` may be a decimal digit of any script.
-/

namespace Chip8

/-- The capitals of a character that has plain ones, and any other character as it is. -/
def capitals (c : Char) : List Char :=
  match c with
  | 'ı' => ['I']
  | 'ſ' => ['S']
  | 'ﬅ' | 'ﬆ' => ['S', 'T']
  | c => [c.toUpper]

/-- The register number that a digit after `V` stands for. -/
def registerDigit? (c : Char) : Option Register :=
  if 'A' ≤ c ∧ c ≤ 'F' then some (Register.ofNat (c.toNat - 'A'.toNat + 10))
  else (Text.digitValue? c).map Register.ofNat

/-- The value of the register with the given name, if there is one. -/
def Machine.register? (m : Machine) (name : String) : Option Nat :=
  match name.toList.flatMap capitals with
  | ['P', 'C'] => some m.registers.pc.toNat
  | ['I'] => some m.registers.i.toNat
  | ['S', 'P'] => some m.registers.stack.depth
  | ['D', 'T'] => some m.timers.delay.toNat
  | ['S', 'T'] => some m.timers.sound.toNat
  | ['V', digit] => (registerDigit? digit).map fun x => (m.v x).toNat
  | _ => none

end Chip8
