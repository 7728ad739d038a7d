import Chip8.Screen.HalfBlock
import Chip8.Session
import Chip8.Terminal.Console

/-!
# What the terminal shows

Three panels: the screen, the state of the processor, and a line of help.  `Display` is what stands on
the terminal at a moment.  Refreshing it rebuilds the screen panel only if the draw flag is up, which
it takes down, and the processor panel always.
-/

namespace Chip8

/-- The panel of the pixels. -/
def screenPanel (s : Screen) : Panel where
  title := some ⟨"CHIP-8", "bold green"⟩
  body := [.text [⟨s.picture, "bright_green"⟩]]
  border := "green"
  fills := false

/-- The panel of help. -/
def helpPanel : Panel where
  title := none
  body := [.text
    [⟨"Keypad: ", "bold"⟩, ⟨"1234 / QWER / ASDF / ZXCV", "cyan"⟩, ⟨"   Quit: ", "bold"⟩, ⟨"Esc", "cyan"⟩]]
  border := "dim"
  fills := true

/-- The program counter, the index, the depth of the stack, the timers and the instruction count. -/
def numberSpans (m : Machine) : List Span :=
  let r := m.registers
  [⟨"PC: ", "bold yellow"⟩, ⟨"0x" ++ Hex.padded 3 r.pc.toNat ++ "  ", "bright_green"⟩,
    ⟨"I: ", "bold yellow"⟩, ⟨"0x" ++ Hex.padded 3 r.i.toNat ++ "  ", "bright_green"⟩,
    ⟨"SP: ", "bold yellow"⟩, ⟨toString r.stack.depth ++ "\n", "bright_green"⟩,
    ⟨"DT: " ++ toString m.timers.delay.toNat ++ "  ST: " ++ toString m.timers.sound.toNat ++ "\n", ""⟩,
    ⟨"Instructions: " ++ toString m.count, ""⟩]

/-- The name and the value of a register. -/
def registerCells (m : Machine) (x : Register) : List String :=
  ["V" ++ Hex.padded 1 x.val, "0x" ++ String.ofList (Hex.byte (m.v x))]

/-- The table of the registers, two of them to a row. -/
def registerTable (m : Machine) : Table where
  columns := [⟨"Reg", 4, "cyan"⟩, ⟨"Value", 6, "green"⟩, ⟨"Reg", 4, "cyan"⟩, ⟨"Value", 6, "green"⟩]
  headStyle := "bold cyan"
  rows := (List.range 8).map fun k =>
    registerCells m (Register.ofNat (2 * k)) ++ registerCells m (Register.ofNat (2 * k + 1))

/-- The keys, those that are down in a style of their own. -/
def keySpans (p : Keypad) : List Span :=
  ⟨"\nKeys: ", ""⟩ :: (List.range 16).flatMap fun (k : Nat) =>
    [⟨Hex.padded 1 k, if p.isDown (Key.ofNat k) then "bold bright_yellow" else "dim"⟩, ⟨" ", ""⟩]

/-- The panel of the processor, with the last fault if there is one. -/
def processorPanel (s : Session) : Panel where
  title := some ⟨"CPU", "bold blue"⟩
  body :=
    [.text (numberSpans s.machine), .table (registerTable s.machine), .text (keySpans s.machine.keypad)] ++
      s.lastFault.elim [] fun cause => [.text [⟨"\n" ++ cause.message, "bold red"⟩]]
  border := "blue"
  fills := true

/-- What stands on the terminal. -/
structure Display where
  screen : Panel
  processor : Panel
  help : Panel
  deriving DecidableEq, Repr

namespace Display

/-- A display that shows a session. -/
def ofSession (s : Session) : Display :=
  ⟨screenPanel s.machine.screen, processorPanel s, helpPanel⟩

/-- Brings the display up to date; whether the screen panel was rebuilt, the display, and the session
with its draw flag down. -/
def refresh (d : Display) (s : Session) : Bool × Display × Session :=
  let (changed, screen) := s.machine.screen.consume
  let s := { s with machine := { s.machine with screen } }
  (changed,
    { d with
      screen := if changed then screenPanel screen else d.screen
      processor := processorPanel s },
    s)

/-- The columns for the screen panel. -/
def screenColumns : Nat := 70

/-- The rows for the screen panel and the processor panel beside it. -/
def mainRows : Nat := 20

/-- The rows for the help panel. -/
def helpRows : Nat := 3

/-- The lines of a display: the screen panel with the processor panel beside it, and the help panel
below.  What does not fit is not shown. -/
def lines (d : Display) (width : Nat) : List String :=
  let left := d.screen.linesIn screenColumns mainRows
  let right := d.processor.linesIn (max 1 (width - screenColumns)) mainRows
  let beside (l r : String) : String :=
    String.ofList (exactly width (exactly screenColumns l.toList ++ r.toList))
  left.zipWith beside right ++ d.help.linesIn width helpRows

end Display

/-- The lines that show a session once: the screen and the processor. -/
def stillLines (s : Session) (console : Console) : List String :=
  console.panel (screenPanel s.machine.screen) ++ console.panel (processorPanel s)

end Chip8
