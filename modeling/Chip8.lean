import Chip8.Changes
import Chip8.Display.Rows
import Chip8.Main
import Chip8.Timers.Exact
import Chip8.Proofs.Aliasing
import Chip8.Proofs.Assembly
import Chip8.Proofs.Codec
import Chip8.Proofs.Nesting
import Chip8.Proofs.Playback
import Chip8.Proofs.Timing
import Chip8.Proofs.Footprint
import Chip8.Proofs.Randomness
import Chip8.Proofs.Logging
import Chip8.Proofs.Arithmetic
import Chip8.Proofs.Overdraw
import Chip8.Proofs.Showing
import Chip8.Proofs.Pacing
import Chip8.Proofs.Transfer
import Chip8.Proofs.Countdown
import Chip8.Proofs.ExactTime
import Chip8.Proofs.Waiting
import Chip8.Proofs.Symbols
import Chip8.Proofs.Fitting
import Chip8.Proofs.Budget
import Chip8.Proofs.Keyboard
import Chip8.Proofs.Watching
import Chip8.Proofs.Exiting
