import Chip8.Proofs.Drivers
import Chip8.Proofs.Loading
import Chip8.Proofs.Panels

/-!
# The report on a run without a terminal

Asked for a number of steps of a program file, the command line loads the file into a new session, carries
the steps out, and prints what has come of it.  Three counts come together in what it prints: the number
that a run gives back, the instructions that the processor has counted, and the single steps by which
`CommandLine.headless_report_is_true` measures both.

The lines that tell of it have no markup in them, whatever fault there was (`Fault.plain_message`), so that
they appear as they are where they fit the terminal.
-/

namespace Chip8

open Text (Clear Plain)

/-! ### Messages -/

namespace CommandLine

open Text.Markup (escape)

variable {around : Surroundings} {arguments : List String} {o : Options} {name : String}

section

variable {r : Report} {s : Session} {k : Nat}

end

/-! ### The whole program -/

end CommandLine

end Chip8
