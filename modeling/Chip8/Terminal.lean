import Chip8.Terminal.Display

/-!
# Playing on a terminal

A terminal reports that a key is struck and never that it is let go.  So a keystroke puts its key down
and winds up a timer, and the key goes up when the timer fires; `Terminal.held` lists the keys with a
timer, the oldest timer first, and a key stands there once for every timer.

An interactive session is a sequence of frames.  In each frame the display is refreshed, some
instructions are carried out, and then the player interrupts, strikes a key or does nothing.  A fault,
the escape key and an interrupt end it; after the last frame the player interrupts.
-/

namespace Chip8

/-- A session at a terminal. -/
structure Terminal where
  session : Session
  /-- Whether play goes on. -/
  playing : Bool
  /-- The keys that wait for their timers, the oldest timer first. -/
  held : List Key
  deriving Repr

/-- The number of the key for a character; four rows of four characters stand for the keypad. -/
def keyNumber? (c : Char) : Option Nat :=
  match c.toLower with
  | '1' => some 0x1 | '2' => some 0x2 | '3' => some 0x3 | '4' => some 0xC
  | 'q' => some 0x4 | 'w' => some 0x5 | 'e' => some 0x6 | 'r' => some 0xD
  | 'a' => some 0x7 | 's' => some 0x8 | 'd' => some 0x9 | 'f' => some 0xE
  | 'z' => some 0xA | 'x' => some 0x0 | 'c' => some 0xB | 'v' => some 0xF
  | _ => none

/-- The key for a character of the keyboard. -/
def keyOfChar? (c : Char) : Option Key := (keyNumber? c).map Key.ofNat

/-- What the player does at the end of a frame. -/
structure Frame where
  /-- How many instructions come first. -/
  steps : Nat
  /-- The player interrupts. -/
  interrupt : Bool
  /-- The key that the player strikes. -/
  key : Option String
  deriving DecidableEq, Repr

namespace Terminal

/-- A session at a terminal, with nothing struck yet. -/
def ofSession (s : Session) : Terminal := ⟨s, false, []⟩

/-- Applies a change to the keypad. -/
def changeKeypad (t : Terminal) (change : Keypad → Keypad) : Terminal :=
  let m := t.session.machine
  { t with session := { t.session with machine := { m with keypad := change m.keypad } } }

/-- Takes a keystroke: escape ends play, a character of the keypad puts its key down and winds up a
timer, and anything else does nothing. -/
def strike (t : Terminal) (key : String) : Terminal :=
  match key.toList with
  | ['\x1b'] => { t with playing := false }
  | [c] =>
    match keyOfChar? c with
    | some k => { t.changeKeypad (·.press k) with held := t.held ++ [k] }
    | none => t
  | _ => t

/-- Fires the oldest timer, if there is one: its key goes up. -/
def fire (t : Terminal) : Terminal :=
  match t.held with
  | [] => t
  | k :: rest => { t.changeKeypad (·.release k) with held := rest }

/-- Lets the session go on for up to `steps` instructions while play goes on; how many were not carried
out.  An error of the machine ends play, a misuse goes on to whoever asked.  `done` instructions came
before, and `past` are their events. -/
def proceed (hooks : Nat → Hooks) :
    (steps done : Nat) → (past : Array Event) → Terminal → Outcome Terminal Nat
  | 0, _, past, t => ⟨t, past.toList, .ok 0⟩
  | steps + 1, done, past, t =>
    if t.playing then
      match t.session.step (hooks done) with
      | ⟨s, events, .ok _⟩ => proceed hooks steps (done + 1) (past ++ events) { t with session := s }
      | ⟨s, events, .error e⟩ =>
        let left := if events.any Event.isStepped then steps else steps + 1
        if e.isMachineError then
          ⟨{ t with session := s, playing := false }, (past ++ events).toList, .ok left⟩
        else ⟨{ t with session := s }, (past ++ events).toList, .error e⟩
    else ⟨t, past.toList, .ok (steps + 1)⟩

/-- Lets the session go on for up to `steps` instructions; how many were not carried out. -/
def stepLoop (hooks : Nat → Hooks) (steps : Nat) (t : Terminal) : Outcome Terminal Nat :=
  proceed hooks steps 0 #[] t

/-- Refreshes the display at the start of a frame, which takes the draw flag down. -/
def refresh (t : Terminal) : Terminal :=
  { t with session := ((Display.ofSession t.session).refresh t.session).2.2 }

/-- Plays one frame; whether the player interrupted. -/
def playFrame (hooks : Nat → Hooks) (frame : Frame) (t : Terminal) : Outcome Terminal Bool :=
  (t.refresh.stepLoop hooks frame.steps).andThen fun _ t =>
    if frame.interrupt then ⟨t, [], .ok true⟩
    else ⟨frame.key.elim t t.strike, [], .ok false⟩

/-- Plays frames until play ends; how many frames were not played. -/
def playFrames (hooks : Nat → Hooks) : List Frame → Terminal → Outcome Terminal Nat
  | [], t => ⟨if t.playing then t.refresh else t, [], .ok 0⟩
  | frame :: rest, t =>
    if t.playing then
      (t.playFrame hooks frame).andThen fun interrupted t =>
        if interrupted then ⟨t, [], .ok rest.length⟩ else playFrames hooks rest t
    else ⟨t, [], .ok (rest.length + 1)⟩

/-- An interactive session; how many frames were not played. -/
def play (hooks : Nat → Hooks) (script : List Frame) (t : Terminal) : Outcome Terminal Nat :=
  let o := playFrames hooks script { t with playing := true }
  { o with state := { o.state with playing := false } }

/-- The lines that are printed when an interactive session has ended. -/
def farewell (s : Session) (console : Console) : List String :=
  stillLines s console ++
    s.lastFault.elim [] fun cause => console.text ⟨("Stopped: " ++ cause.message).toList, []⟩

end Terminal

end Chip8
