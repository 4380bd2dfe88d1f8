import Chip8.Main
import Chip8.Proofs.Agreement
import Chip8.Proofs.Blocking
import Chip8.Proofs.Bounds
import Chip8.Proofs.Calls
import Chip8.Proofs.Composition
import Chip8.Proofs.Countdown
import Chip8.Proofs.Frames
import Chip8.Proofs.Noninterference
import Chip8.Proofs.Stream
import Chip8.Proofs.Modes
import Chip8.Proofs.Safety
import Chip8.Proofs.Accounting
import Chip8.Proofs.Exits
import Chip8.Proofs.Presentation
import Chip8.Proofs.Printing
import Chip8.Proofs.Keys
import Chip8.Proofs.Drawing
import Chip8.Proofs.Arithmetic
import Chip8.Proofs.Transfer
import Chip8.Proofs.Overlay
import Chip8.Proofs.Dispatch
import Chip8.Proofs.Continuation
import Chip8.Proofs.Suspension
import Chip8.Proofs.Hexadecimal
import Chip8.Proofs.Tracing
import Chip8.Proofs.Digits
import Chip8.Proofs.Rendering
import Chip8.Proofs.Loading
import Chip8.Proofs.Decoding
import Chip8.Proofs.Precedence
