import Chip8.CommandLine.Launch
import Chip8.Terminal.Live

/-!
# The program

The layer around `CommandLine.start`: it reads the file that the arguments name, prints reports, and
plays in real time.  A keystroke is read in the background while play goes on.  The terminal may hold
keystrokes back until the end of a line, and the end of the input ends play like an interrupt.
-/

namespace Chip8.CommandLine

/-- The reason for which a file could not be read.  Its number may come negated, in 32 bits. -/
def failureOf : IO.Error → Rom.ReadFailure
  | .noFileOrDirectory _ code details | .permissionDenied _ code details
  | .invalidArgument _ code details | .inappropriateType _ code details =>
    let number := min code.toNat (0x100000000 - code.toNat)
    let known : List Rom.ReadFailure := [.notFound, .notDirectory, .isDirectory, .nameTooLong]
    (known.find? (·.number = number)).getD (.other number details.capitalize)
  | e => .other 5 (toString e)

/-- The file that the arguments name. -/
def romNamed (arguments : List String) : Option String :=
  match read arguments with
  | .ok (.run o) => o.rom
  | _ => none

/-- Looks around: reads the file that the arguments name. -/
def lookAround (arguments : List String) : IO Surroundings := do
  let contents ←
    match romNamed arguments with
    | none => pure (.error .notFound)
    | some name =>
      match ← (IO.FS.readBinFile (Rom.Path.ofString name).text).toBaseIO with
      | .ok bytes => pure (.ok (bytes.toList.map UInt8.toBitVec))
      | .error e => pure (.error (failureOf e))
  let noise := (← IO.getRandomBytes 8).toList
  let entropy : Nat := noise.foldl (fun n b => 256 * n + b.toNat) 0
  let columns := (← IO.getEnv "COLUMNS").bind String.toNat?
  return ⟨fun _ => contents, entropy, .plain (columns.getD 80)⟩

/-- Prints a report and gives its exit code. -/
def tell (r : Report) : IO UInt32 := do
  let out ← IO.getStdout
  out.putStr r.output
  out.flush
  for record in r.log do
    IO.eprintln ("[" ++ record.level.name ++ "] " ++ record.message)
  for complaint in r.complaint do
    IO.eprintln (String.join (helpLines.take 1))
    IO.eprintln complaint
  return UInt32.ofNat r.code

/-- Begins to read a keystroke in the background. -/
def awaitKey : IO (Task (Except IO.Error ByteArray)) := do
  let input ← IO.getStdin
  IO.asTask (input.read 1) .dedicated

/-- Plays until play ends; the session then. -/
partial def playLive (around : Surroundings) (o : Options) (awaited : Task (Except IO.Error ByteArray))
    (l : Live) : IO Session := do
  if !l.terminal.playing then return l.terminal.session
  let l := l.beginFrame
  let home := "\x1b[H"
  let _ ← tell (Report.empty.print (home ++ printLines (l.display.lines around.console.width)))
  IO.sleep (UInt32.ofNat (Live.frameTime / 1000))
  let mut awaited := awaited
  let mut key : Option String := none
  if ← IO.hasFinished awaited then
    match awaited.get with
    | .ok bytes =>
      match bytes.toList with
      | [] => return l.terminal.session
      | b :: _ =>
        key := some (String.singleton (Char.ofNat b.toNat))
        if b ≠ 0x1b then awaited ← awaitKey
    | .error e => throw e
  let (events, l) := l.endFrame (microseconds o.interval) key
  let _ ← tell (Report.empty.follow o events)
  playLive around o awaited l

/-- Carries out what is left to do after the beginning; the exit code. -/
def finish (around : Surroundings) : Beginning → IO UInt32
  | .over r => tell r
  | .ready o r s => do
    if o.interactive then
      let clear := "\x1b[2J"
      let _ ← tell (r.print clear)
      let s ← playLive around o (← awaitKey) (Live.ofSession s)
      tell (leave around Report.empty s)
    else tell (runHeadless around o r s)

end Chip8.CommandLine

/-- The program; its exit code. -/
def main (arguments : List String) : IO UInt32 := do
  let around ← Chip8.CommandLine.lookAround arguments
  match Chip8.CommandLine.start around arguments with
  | .ok beginning => Chip8.CommandLine.finish around beginning
  | .error e =>
    IO.eprintln e.message
    return 1
