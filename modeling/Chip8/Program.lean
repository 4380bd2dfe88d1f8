/-
  Chip8/Program.lean
  ==================
  **Loading a program** — an image is laid over memory from the program start
  on; an image larger than program memory is refused.
-/
import Chip8.Machine

namespace Chip8.Machine

/-- Copy a program image into memory. -/
def loadProgram (m : Machine) (image : List UInt8) : Except Error Machine :=
  if Memory.programCapacity < image.length then
    .error (.capacityExceeded image.length Memory.programCapacity)
  else .ok { m with memory := Cells.writeAll m.memory Memory.programStart image }

end Chip8.Machine
