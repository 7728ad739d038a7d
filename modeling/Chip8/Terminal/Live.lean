import Chip8.Terminal
import Chip8.Text.Decimal

/-!
# Playing in real time

A session at a terminal is played frame after frame at a fixed distance in time.  `Live` counts the
frames, and with them it measures everything that takes time: how many instructions are due, and when
the timer of a key fires.
-/

namespace Chip8

/-- The whole microseconds in a number of seconds; none for a negative number, and not much more than
is ever waited for if there are too many. -/
def microseconds : Text.Decimal → Nat
  | .finite seconds exponent =>
    match exponent + 6 with
    | .ofNat zeros => seconds.toNat * Nat.pow 10 (min zeros 12)
    | .negSucc places =>
      -- A number of fewer than `3 * n` binary digits has at most `n` decimal digits.
      if seconds.toNat.log2 < 3 * (places + 1) then 0 else seconds.toNat / Nat.pow 10 (places + 1)
  | .infinite false => Nat.pow 10 12
  | .infinite true | .notANumber => 0

/-- A session at a terminal in real time. -/
structure Live where
  terminal : Terminal
  display : Display
  /-- How many frames have been played. -/
  frames : Nat
  /-- The frames in which the timers of the held keys fire, the oldest timer first. -/
  timers : List Nat

namespace Live

/-- The microseconds from one frame to the next. -/
def frameTime : Nat := 30000

/-- For how many frames a key stays down. -/
def holdFrames : Nat := 5

/-- How many instructions are due before a frame, with so many microseconds between them. -/
def dueBefore (interval frame : Nat) : Nat := frame * frameTime / max 1 interval

/-- How many instructions are due in a frame. -/
def dueIn (interval frame : Nat) : Nat := dueBefore interval (frame + 1) - dueBefore interval frame

/-- Play before its first frame. -/
def ofSession (s : Session) : Live where
  terminal := { Terminal.ofSession s with playing := true }
  display := Display.ofSession s
  frames := 0
  timers := []

/-- Begins a frame: fires the timers that are due and brings the display up to date. -/
def beginFrame (l : Live) : Live :=
  let fired := l.timers.takeWhile (· ≤ l.frames)
  let terminal := fired.foldl (fun t _ => t.fire) l.terminal
  { l with
    terminal
    display := (l.display.refresh terminal.session).2.1
    timers := l.timers.drop fired.length }

/-- Ends a frame: carries out the instructions that are due and takes a keystroke; the events, and
what comes after. -/
def endFrame (interval : Nat) (key : Option String) (l : Live) : List Event × Live :=
  let played := l.terminal.playFrame (fun _ => Hooks.silent) ⟨dueIn interval l.frames, false, key⟩
  let wound := played.state.held.length - l.terminal.held.length
  (played.events,
    { l with
      terminal := played.state
      frames := l.frames + 1
      timers := l.timers ++ List.replicate wound (l.frames + holdFrames) })

end Live

end Chip8
