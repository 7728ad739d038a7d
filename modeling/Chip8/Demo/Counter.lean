import Chip8.Machine.RegisterName
import Chip8.Screen.HalfBlock
import Chip8.Session.Run

/-!
# A decimal counter

A program that counts in `V3` and draws the count in three decimal digits, over and over, and a show
that runs it for twelve screenfuls.
-/

namespace Chip8.Demo

/-- The program, from its start at `0x200` on.  One round takes sixteen instructions. -/
def counter : List Byte :=
  [0x00, 0xE0,  -- 200: clear the screen
   0xA3, 0x00,  -- 202: point at 0x300
   0xF3, 0x33,  -- 204: store the digits of V3
   0xF2, 0x65,  -- 206: load them into V0, V1 and V2
   0x64, 0x02,  -- 208: column 2
   0x65, 0x02,  -- 20A: row 2
   0xF0, 0x29,  -- 20C: draw the hundreds
   0xD4, 0x55,
   0x74, 0x05,
   0xF1, 0x29,  -- 212: draw the tens
   0xD4, 0x55,
   0x74, 0x05,
   0xF2, 0x29,  -- 218: draw the units
   0xD4, 0x55,
   0x73, 0x01,  -- 21C: count
   0x12, 0x00]  -- 21E: again

/-- The number of instructions between two pictures: seven rounds. -/
def counterBurst : Nat := 16 * 7

/-- Runs the counter for a number of bursts; after each that drew something, the picture and the
count.  An error ends the show. -/
def showCounter : Nat → Session → List String
  | 0, _ => ["Demo finished."]
  | bursts + 1, s =>
    let o := s.runFor (fun _ => Hooks.silent) counterBurst
    match o.result with
    | .error e => [e.message]
    | .ok _ =>
      let (drawn, screen) := o.state.machine.screen.consume
      let s := { o.state with machine := { o.state.machine with screen } }
      let count := (s.machine.register? "V3").elim "None" toString
      (if drawn then screen.halfBlocks ++ ["V3 = " ++ count] else []) ++ showCounter bursts s

/-- The lines that the show prints. -/
def counterShow : List String :=
  let blank : Session :=
    Session.initial { source := .listed [] 0, maxInstructions := 0, trace := false }
  ["CHIP-8 BCD Counter Demo", String.ofList (List.replicate 40 '=')] ++
    showCounter 12 (blank.load counter).state

end Chip8.Demo
