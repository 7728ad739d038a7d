import Chip8.CommandLine.Help
import Chip8.CommandLine.Options
import Chip8.Demo.Glyphs
import Chip8.Session.Run
import Chip8.Terminal
import Chip8.Text.Highlight
import Chip8.Text.Markup
import Chip8.Text.Wrap

/-!
# The program behind the command line

Reads the arguments, loads a program and either carries out a number of instructions and prints the
screen, or plays interactively.  Everything that the program does to its surroundings is collected in a
`Report`, and everything that it needs of them comes in by `Surroundings`.
-/

namespace Chip8.CommandLine

/-- What the program finds around it. -/
structure Surroundings where
  /-- The contents of a file. -/
  read : Rom.Path → Except Rom.ReadFailure (List Byte)
  /-- The seed to take when none is given. -/
  entropy : Int
  /-- Where everything is printed. -/
  console : Console

/-- What the program leaves behind. -/
structure Report where
  /-- The exit code. -/
  code : Nat
  /-- What was printed. -/
  output : String
  /-- What was logged. -/
  log : List Record
  /-- What was wrong with the arguments. -/
  complaint : Option String
  deriving DecidableEq, Repr

/-- The version of the program. -/
def version : String := "0.1.0"

/-- Lines with their ends. -/
def printLines (lines : List String) : String := String.join (lines.map (· ++ "\n"))

/-- A styled text, in lines that fit the terminal. -/
def printStyled (around : Surroundings) (text : String) : String :=
  printLines (around.console.text (Text.Highlight.add (Text.Markup.read text)))

namespace Report

/-- A report to which nothing has been added. -/
def empty : Report := ⟨0, "", [], none⟩

/-- Adds to what was printed. -/
def print (r : Report) (text : String) : Report := { r with output := r.output ++ text }

/-- Adds what the events print and log: bells if they are wanted, and the records of errors, or all
records if much is to be said. -/
def follow (r : Report) (o : Options) (events : List Event) : Report :=
  let bells := if o.bell then String.join (events.map Event.bell) else ""
  let records := events.filterMap fun event =>
    match event with
    | .log record => if o.verbose || record.level = .error then some record else none
    | _ => none
  { r with output := r.output ++ bells, log := r.log ++ records }

/-- Ends with an exit code. -/
def exit (r : Report) (code : Nat) : Report := { r with code }

end Report

/-- The session for the given options, with nothing loaded. -/
def freshSession (around : Surroundings) (o : Options) : Session :=
  Session.initial {
    source := Random.Source.ofSeed (o.seed.getD around.entropy)
    maxInstructions := 0
    trace := o.verbose }

/-- Where the beginning leads to. -/
inductive Beginning where
  /-- The program has done all that it was asked for. -/
  | over (r : Report)
  /-- There is a program to carry out. -/
  | ready (o : Options) (r : Report) (s : Session)

/-- Greets and loads: the demonstration, or a file, or nothing at all, and then it helps. -/
def load (around : Surroundings) (o : Options) : Except Error Beginning :=
  let fresh := freshSession around o
  let greeted := Report.empty.print (printStyled around ("[bold]CHIP-8 Emulator v" ++ version ++ "[/bold]"))
  if o.demo then
    let loaded := fresh.load Demo.glyphs
    let r := greeted.follow o loaded.events
    .ok (.ready o (r.print (printStyled around "Demo program loaded")) loaded.state)
  else
    match o.rom.filter (· ≠ "") with
    | none => .ok (.over ((greeted.print (printLines helpLines)).exit 1))
    | some name =>
      let loaded := fresh.loadFile around.read name
      let r := greeted.follow o loaded.events
      match loaded.result with
      | .ok size =>
        let text := "Loaded " ++ (Rom.Path.ofString name).name ++ ": " ++ toString size ++ " bytes"
        .ok (.ready o (r.print (printStyled around text)) loaded.state)
      | .error e =>
        if e.isMachineError then
          let text := "[red]Load failed: " ++ Text.Markup.escape e.message ++ "[/red]"
          .ok (.over ((r.print (printStyled around text)).exit 1))
        else .error e

/-- What comes of arguments that cannot be read. -/
def complain (e : UsageError) : Report :=
  { Report.empty with code := 2, complaint := some (programName ++ ": error: " ++ e.message) }

/-- What comes of asking for help. -/
def help : Report := Report.empty.print (printLines helpLines)

/-- Reads the arguments, greets and loads. -/
def start (around : Surroundings) (arguments : List String) : Except Error Beginning :=
  match read arguments with
  | .error e => .ok (.over (complain e))
  | .ok .help => .ok (.over help)
  | .ok (.run o) => load around o

/-- Carries out the steps asked for and shows the session. -/
def runHeadless (around : Surroundings) (o : Options) (r : Report) (s : Session) : Report :=
  let ran := s.runFor (fun _ => Hooks.silent) o.steps
  let r := r.follow o ran.events
  let (text, code) :=
    match ran.result with
    | .ok executed => ("Executed " ++ toString executed ++ " instructions", 0)
    | .error e =>
      ("[red]Execution stopped after " ++ toString ran.state.machine.count ++ " steps: " ++
        Text.Markup.escape e.message ++ "[/red]", 1)
  ((r.print (printStyled around text)).print
    (printLines (stillLines ran.state around.console))).exit code

/-- Ends an interactive session. -/
def leave (around : Surroundings) (r : Report) (s : Session) : Report :=
  (r.print (printLines (Terminal.farewell s around.console))).exit
    (if s.lastFault.isNone then 0 else 1)

/-- Plays the frames of a script. -/
def runScript (around : Surroundings) (o : Options) (script : List Frame) (r : Report) (s : Session) :
    Report :=
  let played := (Terminal.ofSession s).play (fun _ => Hooks.silent) script
  leave around (r.follow o played.events) played.state.session

/-- The program, with the frames of the player given beforehand. -/
def launch (around : Surroundings) (script : List Frame) (arguments : List String) :
    Except Error Report := do
  match ← start around arguments with
  | .over r => return r
  | .ready o r s =>
    return if o.interactive then runScript around o script r s else runHeadless around o r s

end Chip8.CommandLine
