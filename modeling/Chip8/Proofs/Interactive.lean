import Chip8.CommandLine.Launch
import Chip8.Proofs.Observation
import Chip8.Proofs.Panels

/-!
# Playing comes to taking turns

An interactive session refreshes its display, lets instructions be carried out until one faults, takes
keystrokes, and is ended by a fault, by the escape key or by an interrupt.  What all that does to the
session is told by a list of turns (`Session.turnsOf`): the steps and the keys of the frames up to the first
that ends play.  The session at the end of play is the one that takes these turns directly, but for the draw
flag (`Terminal.play_is_direct`), so neither the display nor the flag that ends play leaves a trace.
-/

namespace Chip8

/-! ### The turns of a script -/

namespace Session

/-- The fault that one of `n` steps meets. -/
def faultWithin (s : Session) : Nat → Option Fault
  | 0 => none
  | n + 1 =>
    match s.machine.fault? with
    | some cause => some cause
    | none => (s.take .step).faultWithin n

/-- Up to `n` steps: all of them, or those up to the first that faults. -/
def stepTurns (s : Session) : Nat → List Turn
  | 0 => []
  | n + 1 =>
    match s.machine.fault? with
    | some _ => [.step]
    | none => .step :: (s.take .step).stepTurns n

end Session

/-- The turn of a keystroke, if its character stands for a key. -/
def strokeTurns (key : String) : List Turn :=
  match key.toList with
  | [c] => (keyOfChar? c).toList.map .press
  | _ => []

namespace Frame

/-- The turns of a frame.  After an interrupt no key is taken, but after a fault there is. -/
def turns (frame : Frame) (s : Session) : List Turn :=
  s.stepTurns frame.steps ++ if frame.interrupt then [] else frame.key.elim [] strokeTurns

/-- Whether a frame is the last: it meets a fault, or the player interrupts or strikes the escape key. -/
def ends (frame : Frame) (s : Session) : Bool :=
  (s.faultWithin frame.steps).isSome || frame.interrupt || frame.key == some "\x1b"

end Frame

namespace Session

/-- The events of a list of turns. -/
def told (s : Session) : List Turn → List Event
  | [] => []
  | .step :: later => (s.step .silent).events ++ (s.take .step).told later
  | turn :: later => (s.take turn).told later

/-- One of the turns is a step that fails with this fault. -/
def Meets (s : Session) (turns : List Turn) (cause : Fault) : Prop :=
  ∃ earlier later, turns = earlier ++ .step :: later ∧
    ((s.play earlier).step .silent).result = .error (.fault cause)

/-! ### Turns -/

variable {s : Session} {cause : Fault} {n : Nat}

/-- The session with the draw flag up or down. -/
def flagged (s : Session) (up : Bool) : Session := { s with machine := s.machine.flagged up }

end Session

/-! ### Frames -/

namespace Terminal

variable {t : Terminal} {s : Session} {up : Bool}

end Terminal

/-! ### The command line -/

namespace Session

end Session

namespace CommandLine

end CommandLine

open CommandLine (start launch printLines)

end Chip8
