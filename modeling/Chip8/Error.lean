import Chip8.Fault
import Chip8.Memory
import Chip8.Rom.Files
import Chip8.Text.Quoted

/-!
# Errors

Besides the faults of a running program there are the failures to load one, and arguments that an
operation cannot take.  `Error` is any of them.
-/

namespace Chip8

/-- Why a program was not loaded. -/
inductive LoadError where
  /-- The bytes do not fit behind the start of programs. -/
  | programTooLarge (size : Nat)
  /-- The file of that name does not fit. -/
  | fileTooLarge (name : String) (size : Nat)
  /-- The file cannot be read. -/
  | unreadable (path : Rom.Path) (failure : Rom.ReadFailure)
  /-- There is no program to load again. -/
  | noProgram
  /-- A failure described from outside. -/
  | described (message : String) (size capacity : Int)
  deriving DecidableEq, Repr

namespace LoadError

/-- The wording of a failed load. -/
def message : LoadError → String
  | .programTooLarge size =>
    "Program too large: " ++ toString size ++ " bytes (max " ++ toString programCapacity ++ ")"
  | .fileTooLarge name size =>
    "ROM too large: " ++ name ++ " is " ++ toString size ++
      " bytes (max " ++ toString programCapacity ++ ")"
  | .unreadable path failure =>
    "Cannot read ROM " ++ path.text ++ ": [Errno " ++ toString failure.number ++ "] " ++
      failure.wording ++ ": " ++ Text.quoted path.text
  | .noProgram => "No program has been loaded"
  | .described message _ _ => message

/-- How many bytes were to be loaded, if that was too many; else zero. -/
def size : LoadError → Int
  | .programTooLarge size | .fileTooLarge _ size => size
  | .unreadable _ _ | .noProgram => 0
  | .described _ size _ => size

/-- How many bytes would have fitted, if there were too many; else zero. -/
def capacity : LoadError → Int
  | .programTooLarge _ | .fileTooLarge _ _ => programCapacity
  | .unreadable _ _ | .noProgram => 0
  | .described _ _ capacity => capacity

end LoadError

/-- An argument that an operation cannot take. -/
inductive Misuse where
  /-- No key has that number. -/
  | noSuchKey (number : Int)
  /-- A dump with no bytes to a line. -/
  | zeroLineWidth
  /-- A file name with a NUL in it. -/
  | nulInFileName
  deriving DecidableEq, Repr

/-- The wording of a misuse. -/
def Misuse.message : Misuse → String
  | .noSuchKey number => "Key out of range: " ++ toString number ++ " (expected 0-15)"
  | .zeroLineWidth => "range() arg 3 must not be zero"
  | .nulInFileName => "embedded null byte"

/-- What an operation can fail with. -/
inductive Error where
  | fault (cause : Fault)
  | load (cause : LoadError)
  | misuse (cause : Misuse)
  /-- A failure of the machine that is known by its wording alone. -/
  | described (message : String)
  deriving DecidableEq, Repr

namespace Error

/-- The wording of an error. -/
def message : Error → String
  | .fault cause => cause.message
  | .load cause => cause.message
  | .misuse cause => cause.message
  | .described message => message

/-- Whether the machine or its loader failed, and not the one who asked. -/
def isMachineError : Error → Bool
  | .misuse _ => false
  | _ => true

end Error

end Chip8
