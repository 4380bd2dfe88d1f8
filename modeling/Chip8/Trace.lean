/-
  Chip8/Trace.lean
  ================
  **The trace** — what is noted about a machine before it attempts a step, and
  the line that shows it.
-/
import Chip8.Step

namespace Chip8

/-- The word about to run and the registers that say where. -/
structure Trace where
  word : Nat
  pc : Nat
  index : Nat
  depth : Int
  deriving DecidableEq, Repr

namespace Trace

open Chip8.Text

/-- Note what a machine is about to attempt.  The second byte of the word is
    looked up modulo the size of memory. -/
def ofMachine (m : Machine) : Trace where
  word := m.wordAt m.pc.toNat ((m.pc.toNat + 1) % Memory.size)
  pc := m.pc.toNat
  index := m.index.toNat
  depth := m.stack.depth.toInt

/-- The line of a trace. -/
def text (t : Trace) : String :=
  s!"opcode: {Hex.padded 4 t.word}  pc: {Hex.padded 3 t.pc}  I: {Hex.padded 3 t.index}  " ++
    s!"sp: {Hex.padded 1 t.depth}"

end Trace

end Chip8
