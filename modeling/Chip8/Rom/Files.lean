import Chip8.Rom.Path
import Chip8.Word

/-!
# The files that a program can be read from

`Files` is a small tree of directories and files around the place where the emulator was started, and
`Files.read` looks a path up in it.  A name is looked up in a directory that exists, a step up leaves a
directory, and beyond the starting place nothing can be seen.
-/

namespace Chip8.Rom

/-- Why a file cannot be read. -/
inductive ReadFailure where
  | notFound
  | notDirectory
  | isDirectory
  | nameTooLong
  /-- Any other reason, with its number and wording. -/
  | other (number : Nat) (wording : String)
  deriving DecidableEq, Repr

namespace ReadFailure

/-- The number of a failure. -/
def number : ReadFailure → Nat
  | .notFound => 2
  | .notDirectory => 20
  | .isDirectory => 21
  | .nameTooLong => 36
  | .other number _ => number

/-- The wording of a failure. -/
def wording : ReadFailure → String
  | .notFound => "No such file or directory"
  | .notDirectory => "Not a directory"
  | .isDirectory => "Is a directory"
  | .nameTooLong => "File name too long"
  | .other _ wording => wording

end ReadFailure

/-- What lies at a place. -/
inductive Entry where
  | file (contents : List Byte)
  | directory
  deriving DecidableEq, Repr

/-- A place: the names that lead to it from the starting place, innermost first. -/
abbrev Place := List String

/-- Places and what lies at them.  The starting place is a directory without being listed. -/
structure Files where
  entries : List (Place × Entry)

namespace Files

/-- No files. -/
def none : Files := ⟨[]⟩

/-- What lies at a place. -/
def entry? (f : Files) : Place → Option Entry
  | [] => some .directory
  | place => (f.entries.find? (·.1 == place)).map (·.2)

/-- The most bytes that a name may have. -/
def maxNameSize : Nat := 255

/-- The most bytes that a path may have. -/
def maxPathSize : Nat := 4095

/-- Follows names from the directory at `place` to what they lead to.  With `place` missing the walk
has left the starting place. -/
def walk (f : Files) : Option Place → List String → Except ReadFailure Entry
  | some place, [] => (f.entry? place).elim (.error .notFound) .ok
  | Option.none, [] => .ok .directory
  | some [], ".." :: names => f.walk Option.none names
  | some (_ :: above), ".." :: names => f.walk (some above) names
  | Option.none, ".." :: names => f.walk Option.none names
  | Option.none, name :: _ =>
    if maxNameSize < name.utf8ByteSize then .error .nameTooLong else .error .notFound
  | some place, name :: names =>
    if maxNameSize < name.utf8ByteSize then .error .nameTooLong
    else match f.entry? (name :: place), names with
      | some .directory, _ => f.walk (some (name :: place)) names
      | some entry, [] => .ok entry
      | some (.file _), _ :: _ => .error .notDirectory
      | Option.none, _ => .error .notFound

/-- The contents of the file at a path. -/
def read (f : Files) (path : Path) : Except ReadFailure (List Byte) :=
  if maxPathSize < path.text.utf8ByteSize then .error .nameTooLong
  else
    let start : Option Place := if path.root = "" then some [] else Option.none
    match f.walk start path.names with
    | .ok (.file contents) => .ok contents
    | .ok .directory => .error .isDirectory
    | .error failure => .error failure

/-! ### Setting up -/

/-- Puts an entry at a place, instead of what was there. -/
def put (f : Files) (place : Place) (entry : Entry) : Files := ⟨(place, entry) :: f.entries⟩

/-- Makes the directories that names lead to from `place` on; the files and the place reached. -/
def makeDirectories (f : Files) : Place → List String → Files × Place
  | place, [] => (f, place)
  | place, ".." :: names => f.makeDirectories place.tail names
  | place, name :: names => (f.put (name :: place) .directory).makeDirectories (name :: place) names

/-- Puts an entry at a path, making the directories on the way. -/
def add (f : Files) (path : Path) (entry : Entry) : Files :=
  match entry with
  | .directory => (f.makeDirectories [] path.names).1
  | .file _ =>
    let (f, place) := f.makeDirectories [] path.names.dropLast
    f.put (path.name :: place) entry

end Files

end Chip8.Rom
