import Chip8.CallStack
import Chip8.Instruction
import Chip8.Memory

/-!
# The registers

Sixteen byte registers `V0` to `VF`, the index, the program counter and the call stack.

Every operation that writes both a result and the flag `VF` has a fixed order of its writes and reads,
and the order shows when an operand is `VF` itself: a later write wins, and an operand that is read
again after the flag was written has the flag's value.
-/

namespace Chip8

/-- The register file. -/
structure Registers where
  /-- `V0` to `VF`. -/
  v : Vector Byte 16
  /-- The index, an address for stores, loads and sprites. -/
  i : Word
  /-- The address of the next instruction. -/
  pc : Word
  /-- The open calls. -/
  stack : CallStack
  deriving DecidableEq, Repr

namespace Registers

/-- Zeros, and the program counter at the start of the program. -/
def initial : Registers := ⟨Vector.replicate 16 0, 0, BitVec.ofNat 16 programStart, CallStack.empty⟩

/-- The value of a register. -/
def get (r : Registers) (x : Register) : Byte := r.v[x.val]

/-- Writes a register. -/
def set (r : Registers) (x : Register) (value : Byte) : Registers :=
  { r with v := r.v.set x.val value }

/-- Writes `VF`: one for yes, zero for no. -/
def setFlag (r : Registers) (on : Bool) : Registers :=
  r.set Register.flag (if on then 1 else 0)

/-- Moves the program counter past `words` instructions. -/
def advance (r : Registers) (words : Nat) : Registers :=
  { r with pc := r.pc + BitVec.ofNat 16 (2 * words) }

/-- The values of `V0` to the last register. -/
def upTo (r : Registers) (last : Register) : List Byte := r.v.toList.take (last.val + 1)

/-- Writes the bytes into `V0`, `V1` and so on. -/
def load (r : Registers) (bytes : List Byte) : Registers :=
  { r with v := Vector.ofFn fun k => bytes.getD k.val (r.get k) }

/-- Carries out an operation of group 8.

The three bitwise operations leave zero in `VF`, and addition the carry, all of them after the result
is written.  The subtractions write `VF` first, one unless something was borrowed.  The shifts work on
`VY`: they write `VF` first and then shift what is in `VY` by then.  Halving leaves the value with its
lowest bit set in `VF`, doubling the bit that is shifted out. -/
def alu (r : Registers) (op : AluOp) (x y : Register) : Registers :=
  let a := r.get x
  let b := r.get y
  match op with
  | .copy => r.set x b
  | .or => (r.set x (a ||| b)).setFlag false
  | .and => (r.set x (a &&& b)).setFlag false
  | .xor => (r.set x (a ^^^ b)).setFlag false
  | .add => (r.set x (a + b)).setFlag (0xFF < a.toNat + b.toNat)
  | .sub => (r.setFlag (b ≤ a)).set x (a - b)
  | .subFrom => (r.setFlag (a ≤ b)).set x (b - a)
  | .halve =>
    let r := r.set Register.flag (b ||| 1)
    r.set y (r.get y >>> 1)
  | .double =>
    let r := r.set Register.flag (b >>> 7)
    r.set y (r.get y <<< 1)

/-- Adds `VX` to the index.  `VF` says whether the sum passes `0xFFF`; it is written first, and `VX`
read again for the sum itself. -/
def addToIndex (r : Registers) (x : Register) : Registers :=
  let r := r.setFlag (0xFFF < r.i.toNat + (r.get x).toNat)
  { r with i := r.i + (r.get x).setWidth 16 }

theorem get_set (r : Registers) (x query : Register) (value : Byte) :
    (r.set x value).get query = if x = query then value else r.get query := by
  unfold set get
  rw [Vector.getElem_set]
  by_cases h : x = query
  · simp [h]
  · simp [h, Fin.val_ne_of_ne h]

theorem get_set_self (r : Registers) (x : Register) (value : Byte) : (r.set x value).get x = value := by
  rw [get_set, if_pos rfl]

theorem get_set_of_ne (r : Registers) {x query : Register} (other : x ≠ query) (value : Byte) :
    (r.set x value).get query = r.get query := by
  rw [get_set, if_neg other]

theorem get_setFlag (r : Registers) (on : Bool) {x : Register} (other : x ≠ Register.flag) :
    (r.setFlag on).get x = r.get x := by
  rw [setFlag, get_set_of_ne r other.symm]

theorem get_load (r : Registers) (bytes : List Byte) (x : Register) :
    (r.load bytes).get x = bytes.getD x.val (r.get x) := by
  rw [load, get]
  exact Vector.getElem_ofFn _

theorem length_upTo (r : Registers) (last : Register) : (r.upTo last).length = last.val + 1 := by
  rw [upTo, List.length_take, Vector.length_toList]
  omega

theorem setFlag_setFlag (r : Registers) (first last : Bool) :
    (r.setFlag first).setFlag last = r.setFlag last := by
  simp [setFlag, set]

end Registers

end Chip8
