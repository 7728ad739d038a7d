import Chip8.Keypad
import Chip8.Memory.Font
import Chip8.Random.Source
import Chip8.Registers
import Chip8.Screen
import Chip8.Timers

/-!
# The machine

All the parts of the machine together, what can be done to its timers from outside, and what an
instruction looks at before it does anything: the word at the program counter, the key that a register
names, the condition of a skip.
-/

namespace Chip8

/-- The state of the machine. -/
structure Machine where
  memory : Memory
  screen : Screen
  keypad : Keypad
  registers : Registers
  timers : Timers
  /-- Where random numbers come from. -/
  source : Random.Source
  /-- How many instructions have been carried out. -/
  count : Nat
  deriving DecidableEq, Repr

namespace Machine

/-- The machine after it has been switched on. -/
def initial (source : Random.Source) : Machine where
  memory := Memory.initial
  screen := Screen.blank
  keypad := Keypad.released
  registers := Registers.initial
  timers := Timers.stopped
  source := source
  count := 0

/-- The value of a register. -/
def v (m : Machine) (x : Register) : Byte := m.registers.get x

/-! ### Timers, with the signals they send -/

/-- Exchanges the timers, with the signals of the operation on them. -/
def withTimers (m : Machine) (t : Timers × List Signal) : Machine × List Signal :=
  ({ m with timers := t.1 }, t.2)

/-- Sets the delay timer. -/
def setDelay (m : Machine) (value : Byte) : Machine × List Signal :=
  m.withTimers (m.timers.setDelay value)

/-- Sets the sound timer. -/
def setSound (m : Machine) (value : Byte) : Machine × List Signal :=
  m.withTimers (m.timers.setSound value)

/-- Lets both timers count down. -/
def tick (m : Machine) : Machine × List Signal := m.withTimers m.timers.countBoth

/-- Stops both timers. -/
def stopTimers (m : Machine) : Machine × List Signal := m.withTimers m.timers.stop

/-- Registers, timers and instruction count as they are at first; the rest stays. -/
def resetProcessor (m : Machine) : Machine × List Signal :=
  let (m, signals) := m.stopTimers
  ({ m with registers := Registers.initial, count := 0 }, signals)

/-! ### What becomes of the timers -/

theorem setDelay_eq (m : Machine) (value : Byte) :
    m.setDelay value = ({ m with timers := { m.timers with delay := value } },
      m.timers.notice { m.timers with delay := value }) := by
  rw [setDelay, Timers.setDelay_eq]
  rfl

theorem setSound_eq (m : Machine) (value : Byte) :
    m.setSound value = ({ m with timers := { m.timers with sound := value } },
      m.timers.notice { m.timers with sound := value }) := by
  rw [setSound, Timers.setSound_eq]
  rfl

theorem tick_eq (m : Machine) :
    m.tick = ({ m with timers := m.timers.tick }, m.timers.notice m.timers.tick) := by
  rw [tick, Timers.countBoth_eq]
  rfl

theorem stopTimers_eq (m : Machine) :
    m.stopTimers = ({ m with timers := .stopped }, m.timers.notice .stopped) := by
  rw [stopTimers, Timers.stop_eq]
  rfl

theorem resetProcessor_eq (m : Machine) :
    m.resetProcessor =
      ({ m with registers := .initial, timers := .stopped, count := 0 },
        m.timers.notice .stopped) := by
  rw [resetProcessor, stopTimers_eq]

/-! ### What an instruction looks at -/

/-- The word that the program counter points at. -/
def fetch (m : Machine) : Except Fault Word := m.memory.read16 m.registers.pc.toNat

/-- The key that a register names. -/
def keyIn (m : Machine) (x : Register) : Except Fault Key :=
  match Key.ofInt? (m.v x).toNat with
  | some key => .ok key
  | none => .error (.outOfRange .keypad (m.v x).toNat keyCount)

/-- Whether a condition holds. -/
def holds (m : Machine) : Condition → Except Fault Bool
  | .isByte x value => .ok (m.v x == value)
  | .isNotByte x value => .ok (m.v x != value)
  | .same x y => .ok (m.v x == m.v y)
  | .notSame x y => .ok (m.v x != m.v y)
  | .keyDown x => return m.keypad.isDown (← m.keyIn x)
  | .keyUp x => return !m.keypad.isDown (← m.keyIn x)

/-- The three decimal digits of a byte, hundreds first. -/
def decimalDigits (b : Byte) : List Byte :=
  [b.toNat / 100, b.toNat / 10 % 10, b.toNat % 10].map (BitVec.ofNat 8)

end Machine

end Chip8
