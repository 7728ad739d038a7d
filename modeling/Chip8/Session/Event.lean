import Chip8.Error
import Chip8.Timers

/-!
# What a session lets others know

While a session works, it sends events in the order in which things happen: the signals of the machine,
records for the log, the news that an instruction has been carried out, and the news of a fault.
-/

namespace Chip8

/-- How important a log record is. -/
inductive Level where
  | debug
  | info
  | error
  deriving DecidableEq, Repr

/-- The name of a level in the log. -/
def Level.name : Level → String
  | .debug => "DEBUG"
  | .info => "INFO"
  | .error => "ERROR"

/-- A log record. -/
inductive Record where
  /-- An instruction word is about to be carried out. -/
  | trace (pc word index : Word) (depth : Nat)
  /-- The session was reset. -/
  | reset
  /-- A program of `size` bytes was loaded. -/
  | loaded (size : Nat)
  /-- An instruction faulted. -/
  | fault (cause : Fault)
  deriving DecidableEq, Repr

namespace Record

/-- How important a record is. -/
def level : Record → Level
  | .trace .. | .reset => .debug
  | .loaded _ => .info
  | .fault _ => .error

/-- The wording of a record. -/
def message : Record → String
  | .trace pc word index depth =>
    Hex.padded 3 pc.toNat ++ "  " ++ Hex.padded 4 word.toNat ++ "  I=" ++
      Hex.padded 3 index.toNat ++ " SP=" ++ toString depth
  | .reset => "Emulator reset"
  | .loaded size => "Loaded program: " ++ toString size ++ " bytes"
  | .fault cause => "Execution fault: " ++ cause.message

end Record

/-- Something that a session lets others know. -/
inductive Event where
  | signal (s : Signal)
  | log (record : Record)
  /-- An instruction has been carried out; the program counter and the instruction count by then. -/
  | stepped (pc : Word) (count : Nat)
  /-- An instruction has faulted. -/
  | faulted (cause : Fault)
  deriving DecidableEq, Repr

namespace Event

/-- What a terminal bell that follows the tone writes: the bell character where the tone starts. -/
def bell : Event → String
  | .signal (.sound true) => "\x07"
  | _ => ""

/-- Whether an instruction has been carried out. -/
def isStepped : Event → Bool
  | .stepped .. => true
  | _ => false

end Event

end Chip8
