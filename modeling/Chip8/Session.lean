import Chip8.Memory.Program
import Chip8.Processor
import Chip8.Session.Event

/-!
# Sessions

A session is a machine in use: it remembers the program to load again and the last fault, and it runs
or stands still.  Whoever uses it may attach `Hooks`, which answer the news of a step or of a fault with
commands to the session.

Operations yield an `Outcome`: the session afterwards, the events on the way, and a result or an error.
The session is there in either case, as an operation that fails may have done part of its work.
-/

namespace Chip8

/-- What stays the same through the life of a session. -/
structure Config where
  /-- The source of random numbers at the start. -/
  source : Random.Source
  /-- How many instructions a run carries out when it is not told; zero or less for no limit. -/
  maxInstructions : Int
  /-- Whether every instruction is logged. -/
  trace : Bool
  deriving Repr

/-- A machine in use. -/
structure Session where
  config : Config
  machine : Machine
  /-- Whether a run is under way. -/
  running : Bool
  /-- The last fault since the last reset. -/
  lastFault : Option Fault
  /-- The last program loaded. -/
  program : Option (List Byte)
  deriving Repr

/-- What a hook may ask of a session. -/
inductive Command where
  | stop
  | reset
  | reload
  | press (key : Int)
  | release (key : Int)
  deriving DecidableEq, Repr

/-- The answers to the news of a step and of a fault. -/
structure Hooks where
  /-- Commands after an instruction, by the session then. -/
  onStep : Session → List Command
  /-- Commands after a fault. -/
  onFault : Fault → List Command

/-- Hooks that never answer. -/
def Hooks.silent : Hooks := ⟨fun _ => [], fun _ => []⟩

/-- What an operation leaves behind. -/
structure Outcome (σ α : Type) where
  /-- The state afterwards. -/
  state : σ
  /-- The events on the way, in order. -/
  events : List Event
  /-- What came of it. -/
  result : Except Error α

namespace Outcome

/-- The outcome with earlier events in front. -/
def after {σ α : Type} (earlier : List Event) (o : Outcome σ α) : Outcome σ α :=
  { o with events := earlier ++ o.events }

/-- Goes on after a success; an error ends it. -/
def andThen {σ α β : Type} (o : Outcome σ α) (next : α → σ → Outcome σ β) : Outcome σ β :=
  match o.result with
  | .ok a => (next a o.state).after o.events
  | .error e => ⟨o.state, o.events, .error e⟩

end Outcome

namespace Session

/-- A session whose machine has just been switched on. -/
def initial (config : Config) : Session where
  config := config
  machine := Machine.initial config.source
  running := false
  lastFault := none
  program := none

/-- The session with the machine and the signals of an operation on the machine. -/
def withMachine (s : Session) (m : Machine × List Signal) : Outcome Session Unit :=
  ⟨{ s with machine := m.1 }, m.2.map .signal, .ok ()⟩

/-! ### Reset and load -/

/-- Resets the parts of the machine one after the other, and makes the source of random numbers again,
unless it is a list.  The session stands still then and has met no fault; the program stays. -/
def reset (s : Session) : Outcome Session Unit :=
  let m := s.machine
  let m := { m with memory := m.memory.reset }
  let m := { m with screen := m.screen.reset }
  let m := { m with keypad := m.keypad.reset }
  let (m, signals) := m.resetProcessor
  let m := { m with source := s.config.source.restart m.source }
  { state := { s with machine := m, running := false, lastFault := none }
    events := signals.map .signal ++ [.log .reset]
    result := .ok () }

/-- All the parts that are reset make up a machine that has just been switched on. -/
theorem reset_eq (s : Session) :
    s.reset =
      { state := { s with
          machine := Machine.initial (s.config.source.restart s.machine.source)
          running := false
          lastFault := none }
        events := (s.machine.timers.notice .stopped).map .signal ++ [.log .reset]
        result := .ok () } := by
  rw [reset]
  simp only [Memory.reset_eq_initial, Screen.reset_eq_blank, Keypad.reset_eq_released,
    Machine.resetProcessor_eq]
  rfl

/-- Loads a program and remembers it; the number of its bytes. -/
def load (s : Session) (program : List Byte) : Outcome Session Nat :=
  match s.machine.memory.loadProgram program with
  | .ok memory =>
    { state := { s with machine := { s.machine with memory }, program := some program }
      events := [.log (.loaded program.length)]
      result := .ok program.length }
  | .error cause => ⟨s, [], .error (.load cause)⟩

/-- Loads a program from a file, of which `read` gives the contents. -/
def loadFile (s : Session) (read : Rom.Path → Except Rom.ReadFailure (List Byte)) (name : String) :
    Outcome Session Nat :=
  let path := Rom.Path.ofString name
  if name.toList.contains '\x00' then ⟨s, [], .error (.misuse .nulInFileName)⟩
  else match read path with
    | .error failure => ⟨s, [], .error (.load (.unreadable path failure))⟩
    | .ok program =>
      if programCapacity < program.length then
        ⟨s, [], .error (.load (.fileTooLarge path.name program.length))⟩
      else s.load program

/-- Resets and loads the remembered program. -/
def reload (s : Session) : Outcome Session Unit :=
  match s.program with
  | none => ⟨s, [], .error (.load .noProgram)⟩
  | some program => s.reset.andThen fun _ s => (s.load program).andThen fun _ s => ⟨s, [], .ok ()⟩

/-! ### Keys and commands -/

/-- Changes the keypad at a key that must exist. -/
def withKey (s : Session) (number : Int) (change : Keypad → Key → Keypad) : Outcome Session Unit :=
  match Key.ofInt? number with
  | some key =>
    ⟨{ s with machine := { s.machine with keypad := change s.machine.keypad key } }, [], .ok ()⟩
  | none => ⟨s, [], .error (.misuse (.noSuchKey number))⟩

/-- Puts a key down. -/
def press (s : Session) (number : Int) : Outcome Session Unit := s.withKey number Keypad.press

/-- Lets a key up. -/
def release (s : Session) (number : Int) : Outcome Session Unit := s.withKey number Keypad.release

/-- Ends a run after the present step. -/
def stop (s : Session) : Session := { s with running := false }

/-- Does what a hook asks for. -/
def obey (s : Session) : Command → Outcome Session Unit
  | .stop => ⟨s.stop, [], .ok ()⟩
  | .reset => s.reset
  | .reload => s.reload
  | .press key => s.press key
  | .release key => s.release key

/-- Does one thing after the other, until one of them fails. -/
def obeyAll (s : Session) : List Command → Outcome Session Unit
  | [] => ⟨s, [], .ok ()⟩
  | c :: cs => (s.obey c).andThen fun _ s => s.obeyAll cs

/-! ### Steps -/

/-- The trace record that is due before a step: if tracing is on and there is a word to fetch. -/
def traceEvents (s : Session) : List Event :=
  if s.config.trace then
    match s.machine.fetch with
    | .ok word =>
      let r := s.machine.registers
      [.log (.trace r.pc word r.i r.stack.depth)]
    | .error _ => []
  else []

/-- Takes note of a fault, tells of it, and fails with it or with what the answer fails with. -/
def fail {α : Type} (hooks : Hooks) (s : Session) (cause : Fault) : Outcome Session α :=
  -- The note is taken first, so that the answer finds the session standing still.
  let noted := { s with lastFault := some cause, running := false }
  ((noted.obeyAll (hooks.onFault cause)).andThen fun _ s => ⟨s, [], .error (.fault cause)⟩).after
    [.log (.fault cause), .faulted cause]

/-- Carries out one instruction; its word. -/
def step (hooks : Hooks) (s : Session) : Outcome Session Word :=
  Outcome.after s.traceEvents <|
    match Processor.step.run ⟨s.machine, []⟩ with
    | .error cause work =>
      ({ s with machine := work.machine }.fail hooks cause).after (work.sent.map .signal)
    | .ok word work =>
      let s := { s with machine := work.machine }
      ((s.obeyAll (hooks.onStep s)).andThen fun _ s => ⟨s, [], .ok word⟩).after
        (work.sent.map .signal ++ [.stepped s.machine.registers.pc s.machine.count])

end Session

end Chip8
