import Chip8.Session.Run

/-!
# Operations

All that can be asked of a session from outside, those things included that bypass the session and go
straight to the memory, the screen, the timers or the processor.  An `Operation` is one such request
with its arguments, `Session.perform` carries it out, and `Session.performAll` one after the other.

Numbers from outside are any integers.  Where a byte is wanted the low eight bits of the number count,
and where an address, a key or a place on the screen is wanted the operation fails if there is none.
-/

namespace Chip8

/-- A request to a session. -/
inductive Operation where
  | step (hooks : Hooks)
  /-- A run, which is given up if it has no limit and does not end within `patience` instructions. -/
  | run (hooks : Nat → Hooks) (patience : Nat) (limit : Option Int)
  | stop
  | reset
  | load (program : List Byte)
  /-- Loads from a file, of which `read` gives the contents. -/
  | loadFile (read : Rom.Path → Except Rom.ReadFailure (List Byte)) (name : String)
  | reload
  | press (key : Int)
  | release (key : Int)
  | releaseAll
  /-- Sets a single cell. -/
  | write8 (address value : Int)
  /-- Sets consecutive cells. -/
  | writeBlock (address : Int) (values : List Int)
  /-- Puts a program into the memory and does not remember it. -/
  | fillMemory (program : List Byte)
  | resetMemory
  | xorPixel (x y bit : Int)
  | clearScreen
  | consumeFlag
  | resetScreen
  | setDelay (value : Int)
  | setSound (value : Int)
  | tick
  | stopTimers
  | resetProcessor

/-- What comes of an operation that succeeds. -/
inductive Answer where
  | done
  /-- The word of the instruction carried out. -/
  | word (w : Word)
  /-- A number of instructions or of bytes. -/
  | number (n : Nat)
  | flip (flip : Screen.Flip)
  | flag (up : Bool)
  deriving DecidableEq, Repr

/-- The outcome with another form of its result. -/
def Outcome.map {σ α β : Type} (f : α → β) (o : Outcome σ α) : Outcome σ β :=
  { o with result := o.result.map f }

namespace Session

/-- Exchanges the memory for what an access to it yields, if that does not fail. -/
def withMemory {ε : Type} (s : Session) (error : ε → Error) :
    Except ε Memory → Outcome Session Unit
  | .ok memory => ⟨{ s with machine := { s.machine with memory } }, [], .ok ()⟩
  | .error e => ⟨s, [], .error (error e)⟩

/-- Exchanges the screen. -/
def withScreen {α : Type} (s : Session) (a : α) (screen : Screen) : Outcome Session α :=
  ⟨{ s with machine := { s.machine with screen } }, [], .ok a⟩

/-- Flips a pixel if `bit` is odd. -/
def xorPixel (s : Session) (x y bit : Int) : Outcome Session Screen.Flip :=
  match s.machine.screen.xorPixel x y bit with
  | .ok (flip, screen) => s.withScreen flip screen
  | .error cause => ⟨s, [], .error (.fault cause)⟩

/-- Carries out an operation; nothing comes of a run that is given up. -/
def perform (s : Session) : Operation → Option (Outcome Session Answer)
  | .step hooks => some ((s.step hooks).map .word)
  | .run hooks patience limit => (s.run hooks patience limit).map (·.map .number)
  | .stop => some ⟨s.stop, [], .ok .done⟩
  | .reset => some (s.reset.map fun _ => .done)
  | .load program => some ((s.load program).map .number)
  | .loadFile read name => some ((s.loadFile read name).map .number)
  | .reload => some (s.reload.map fun _ => .done)
  | .press key => some ((s.press key).map fun _ => .done)
  | .release key => some ((s.release key).map fun _ => .done)
  | .releaseAll =>
    some ⟨{ s with machine := { s.machine with keypad := s.machine.keypad.reset } }, [], .ok .done⟩
  | .write8 address value =>
    some ((s.withMemory .fault (s.machine.memory.write8 address value)).map fun _ => .done)
  | .writeBlock address values =>
    let written := s.machine.memory.writeBlock address (values.map Byte.ofInt)
    some ((s.withMemory .fault written).map fun _ => .done)
  | .fillMemory program =>
    let filled := s.machine.memory.loadProgram program
    some ((s.withMemory .load filled).map fun _ => .number program.length)
  | .resetMemory => some ((s.withMemory .fault (.ok s.machine.memory.reset)).map fun _ => .done)
  | .xorPixel x y bit => some ((s.xorPixel x y bit).map .flip)
  | .clearScreen => some (s.withScreen .done s.machine.screen.clear)
  | .consumeFlag =>
    let (up, screen) := s.machine.screen.consume
    some (s.withScreen (.flag up) screen)
  | .resetScreen => some (s.withScreen .done s.machine.screen.reset)
  | .setDelay value => some ((s.withMachine (s.machine.setDelay (.ofInt value))).map fun _ => .done)
  | .setSound value => some ((s.withMachine (s.machine.setSound (.ofInt value))).map fun _ => .done)
  | .tick => some ((s.withMachine s.machine.tick).map fun _ => .done)
  | .stopTimers => some ((s.withMachine s.machine.stopTimers).map fun _ => .done)
  | .resetProcessor => some ((s.withMachine s.machine.resetProcessor).map fun _ => .done)

/-- Carries out operations one after the other, whether they succeed or fail; what comes of each of
them, if no run is given up. -/
def performAll (s : Session) : List Operation → Option (List (Outcome Session Answer))
  | [] => some []
  | op :: ops =>
    match s.perform op with
    | none => none
    | some o => (o.state.performAll ops).map (o :: ·)

/-- The session after operations with these outcomes. -/
def afterAll (s : Session) (outcomes : List (Outcome Session Answer)) : Session :=
  outcomes.foldl (fun _ o => o.state) s

end Session

end Chip8
