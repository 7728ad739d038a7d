/-!
# Help
-/

namespace Chip8.CommandLine

/-- The name of the program. -/
def programName : String := "chip8-emulator"

/-- The lines that `--help` prints. -/
def helpLines : List String :=
  ["usage: chip8-emulator [-h] [-i] [-n STEPS] [-s SEED] [--interval INTERVAL] [--bell] [--demo] [-v] [rom]",
   "",
   "CHIP-8 Virtual Machine Interpreter",
   "",
   "positional arguments:",
   "  rom                   ROM file to load",
   "",
   "options:",
   "  -h, --help            show this help message and exit",
   "  -i, --interactive     Run in the terminal UI",
   "  -n STEPS, --steps STEPS",
   "                        Steps to execute in headless mode (default: 1000)",
   "  -s SEED, --seed SEED  Random seed",
   "  --interval INTERVAL   Seconds between steps in interactive mode",
   "  --bell                Ring the terminal bell on sound",
   "  --demo                Run demo program",
   "  -v, --verbose         Verbose output",
   "",
   "Examples:",
   "    python -m chip8_emulator game.ch8 -i          # Play in the terminal",
   "    python -m chip8_emulator game.ch8 -n 500      # Run 500 steps, print the screen",
   "    python -m chip8_emulator --demo -n 200        # Run the built-in demo"]

end Chip8.CommandLine
