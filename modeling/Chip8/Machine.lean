/-
  Chip8/Machine.lean
  ==================
  **The machine** — memory, registers, call stack, timers, keypad, screen and
  random key in one immutable value, and the machine from which every run
  starts.

  Words have the widths of the hardware and wrap: registers, memory and timers
  eight bits, program counter, index register and return addresses sixteen.
-/
import Chip8.CallStack
import Chip8.Font
import Chip8.Instruction
import Chip8.Keypad
import Chip8.Random
import Chip8.Screen

namespace Chip8

/-- Bytes of memory. -/
abbrev Memory := Vector UInt8 4096

namespace Memory

/-- All of memory. -/
def size : Nat := 4096

/-- Where programs are loaded and started. -/
def programStart : Nat := 0x200

/-- The largest program image. -/
def programCapacity : Nat := 3584

/-- Memory that holds the built-in digits and is zero elsewhere. -/
def withFont : Memory := Cells.writeAll (Vector.replicate 4096 0) Font.start Font.rows

end Memory

/-- The register that receives carry, borrow and hit flags. -/
def flagReg : Reg := ⟨15, by decide⟩

/-- The register that is added to the target of an indirect jump. -/
def jumpReg : Reg := ⟨0, by decide⟩

/-- The whole state of the machine. -/
structure Machine where
  memory : Memory
  /-- The sixteen registers. -/
  regs : Vector UInt8 16
  /-- The index register. -/
  index : UInt16
  /-- The program counter. -/
  pc : UInt16
  stack : CallStack
  delay : UInt8
  sound : UInt8
  keypad : Keypad
  screen : Screen
  /-- The screen was drawn on since the last frame was taken. -/
  dirty : Bool
  rng : Random.Key
  deriving DecidableEq

namespace Machine

/-- The machine before any program is loaded. -/
def initial (rng : Random.Key) : Machine where
  memory := Memory.withFont
  regs := Vector.replicate 16 0
  index := 0
  pc := UInt16.ofNat Memory.programStart
  stack := CallStack.empty
  delay := 0
  sound := 0
  keypad := Keypad.released
  screen := Screen.blank
  dirty := false
  rng := rng

/-- The initial machine of a seed. -/
def ofSeed (seed : Int) : Except Error Machine :=
  match Random.Key.ofSeed? seed with
  | some key => .ok (initial key)
  | none => .error .seedOutOfRange

/-- The byte at an address; addresses past the end read the last byte. -/
def byteAt (m : Machine) (a : Nat) : UInt8 := Cells.read m.memory a

/-- A register. -/
def reg (m : Machine) (x : Reg) : UInt8 := m.regs[x.val]

/-- Replace a register. -/
def setReg (m : Machine) (x : Reg) (b : UInt8) : Machine := { m with regs := m.regs.set x.val b }

/-- Replace the flag register by 1 or 0. -/
def setFlag (m : Machine) (b : Bool) : Machine := m.setReg flagReg (if b then 1 else 0)

/-- Hold or release a key. -/
def setKey (m : Machine) (key : Int) (down : Bool) : Except Error Machine :=
  (m.keypad.set? key down).map fun k => { m with keypad := k }

/-- Hand out the screen if it was drawn on since the last time, and mark it clean. -/
def takeFrame (m : Machine) : Machine × Option Screen :=
  if m.dirty then ({ m with dirty := false }, some m.screen) else (m, none)

/-- A byte one lower, but not below zero. -/
def countDown (b : UInt8) : UInt8 := if b = 0 then 0 else b - 1

/-- Let both timers count down by one. -/
def tick (m : Machine) : Machine :=
  { m with delay := countDown m.delay, sound := countDown m.sound }

end Machine

end Chip8
