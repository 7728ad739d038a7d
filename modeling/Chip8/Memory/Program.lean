import Chip8.Error

/-!
# Loading a program into the memory

A program goes behind the start of programs, whole or not at all.
-/

namespace Chip8.Memory

/-- Puts a program behind the start of programs.  The cells behind it stay as they are. -/
def loadProgram (m : Memory) (program : List Byte) : Except LoadError Memory :=
  if programCapacity < program.length then .error (.programTooLarge program.length)
  else .ok (m.store programStart program)

theorem loadProgram_isOk_iff (m : Memory) (program : List Byte) :
    (m.loadProgram program).isOk ↔ program.length ≤ 3584 := by
  unfold loadProgram programCapacity memorySize programStart
  split <;> simp [Except.isOk, Except.toBool] <;> omega

end Chip8.Memory
