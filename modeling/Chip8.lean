import Chip8.Demo.Counter
import Chip8.Instruction.Fields
import Chip8.Main
import Chip8.Memory.Dump
import Chip8.Proofs.Transition
import Chip8.Proofs.Decoding
import Chip8.Proofs.Faults
import Chip8.Proofs.Turns
import Chip8.Proofs.Control
import Chip8.Session.Operation
import Chip8.Proofs.Histories
import Chip8.Proofs.Bounds
import Chip8.Proofs.Calls
import Chip8.Proofs.Parts
import Chip8.Proofs.Restarts
import Chip8.Proofs.Tone
import Chip8.Proofs.Sprites
import Chip8.Proofs.Viewing
import Chip8.Proofs.Runs
import Chip8.Proofs.Counting
import Chip8.Proofs.Frames
import Chip8.Proofs.RunControl
import Chip8.Proofs.Drivers
import Chip8.Proofs.Interleavings
import Chip8.Proofs.Observation
import Chip8.Proofs.RandomNumbers
import Chip8.Proofs.Countdowns
import Chip8.Proofs.Loading
import Chip8.Proofs.Bookkeeping
import Chip8.Proofs.Interactive
import Chip8.Proofs.Headless
import Chip8.Proofs.Keystrokes
import Chip8.Proofs.Drawing
import Chip8.Proofs.Afterimages
import Chip8.Proofs.Arithmetic
import Chip8.Proofs.Indexing
import Chip8.Proofs.Tallies
import Chip8.Proofs.Redrawing
import Chip8.Proofs.Ranges
import Chip8.Proofs.Storing
import Chip8.Proofs.Dumps
import Chip8.Proofs.Boxes
