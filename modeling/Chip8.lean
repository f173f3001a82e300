import Chip8.Main
import Chip8.Proofs.Address
import Chip8.Proofs.Answers
import Chip8.Proofs.Appearances
import Chip8.Proofs.Arithmetic
import Chip8.Proofs.Assembly
import Chip8.Proofs.Calls
import Chip8.Proofs.Cells
import Chip8.Proofs.Coverage
import Chip8.Proofs.Cycles
import Chip8.Proofs.Decimals
import Chip8.Proofs.ExitCode
import Chip8.Proofs.Failure
import Chip8.Proofs.Footprint
import Chip8.Proofs.Frame
import Chip8.Proofs.Hands
import Chip8.Proofs.HostBalance
import Chip8.Proofs.Image
import Chip8.Proofs.Influence
import Chip8.Proofs.Interference
import Chip8.Proofs.KeyFiles
import Chip8.Proofs.KeyRecord
import Chip8.Proofs.KeyWait
import Chip8.Proofs.LoopTrace
import Chip8.Proofs.MainLoop
import Chip8.Proofs.NamedWaits
import Chip8.Proofs.Numerals
import Chip8.Proofs.OptionLines
import Chip8.Proofs.Overlay
import Chip8.Proofs.Pacing
import Chip8.Proofs.Painting
import Chip8.Proofs.Parts
import Chip8.Proofs.Performance
import Chip8.Proofs.Pixels
import Chip8.Proofs.Ranges
import Chip8.Proofs.Reception
import Chip8.Proofs.Reload
import Chip8.Proofs.Restart
import Chip8.Proofs.Sketch
import Chip8.Proofs.Sprites
import Chip8.Proofs.Stamps
import Chip8.Proofs.Subroutine
import Chip8.Proofs.Tables
import Chip8.Proofs.Timers
import Chip8.Proofs.ToneGate
import Chip8.Proofs.Transfers
import Chip8.Proofs.Unread
import Chip8.Proofs.UpperCase
import Chip8.Proofs.WellFormed
