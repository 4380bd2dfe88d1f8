/-
  Chip8/Execute.lean
  ==================
  **What each instruction does** — a function from machines to machines for
  every instruction, with the program counter already past it.

  No instruction can fail here: an access outside memory or the call stack
  follows the rule of `Cells`.  Operations that set the flag register store
  their result first, so that the flag wins where both go to the same register.
-/
import Chip8.Machine

namespace Chip8

namespace AluOp

/-- The byte that an operation computes. -/
def result (a b : UInt8) : AluOp → UInt8
  | copy => b
  | or => a ||| b
  | and => a &&& b
  | xor => a ^^^ b
  | add => a + b
  | sub => a - b
  | halve => a / 2
  | subFrom => b - a
  | double => a * 2

/-- The flag that an operation sets, if it sets one: a carry, the absence of a
    borrow, or the bit that was shifted out. -/
def flag? (a b : UInt8) : AluOp → Option Bool
  | add => some (255 < a.toNat + b.toNat)
  | sub => some (b ≤ a)
  | halve => some (a % 2 = 1)
  | subFrom => some (a ≤ b)
  | double => some (a / 128 = 1)
  | copy | or | and | xor => none

end AluOp

namespace Machine

/-- Skip the next instruction under a condition. -/
def skipIf (m : Machine) (b : Bool) : Machine := if b then { m with pc := m.pc + 2 } else m

/-- Whether the key whose number is in the low half of a register is held. -/
def keyHeld (m : Machine) (x : Reg) : Bool := m.keypad[(m.reg x).toNat % 16]

/-- Combine two registers, then set the flag. -/
def combine (m : Machine) (op : AluOp) (x y : Reg) : Machine :=
  let a := m.reg x
  let b := m.reg y
  let m := m.setReg x (op.result a b)
  match op.flag? a b with
  | some f => m.setFlag f
  | none => m

/-- The sprite of `n` rows at the index register, placed with its first column
    and row at `(x0, y0)`.  Rows are eight cells wide, most significant bit
    first; what falls past an edge of the screen is cut off. -/
def sprite (m : Machine) (x0 y0 n : Nat) : Screen :=
  Screen.ofCells fun c r =>
    if x0 ≤ c ∧ c < x0 + 8 ∧ y0 ≤ r ∧ r < y0 + n then
      m.byteAt (m.index.toNat + (r - y0)) >>> UInt8.ofNat (7 - (c - x0)) &&& 1
    else 0

/-- Lay a sprite over the screen; the flag tells whether it hit a lit cell. -/
def draw (m : Machine) (x y : Reg) (n : Nat) : Machine :=
  let s := m.sprite (m.reg x).toNat (m.reg y).toNat n
  { m with screen := m.screen.overlay s, dirty := true }.setFlag (m.screen.hits s)

/-- The decimal digits of a byte: hundreds, tens, ones. -/
def decimalDigits (b : UInt8) : List UInt8 := [b / 100, b / 10 % 10, b % 10]

/-- Registers 0 to `x`. -/
def firstRegs (m : Machine) (x : Reg) : List UInt8 := m.regs.toList.take (x.val + 1)

/-- Replace registers 0 to `x` by the bytes from the index register on. -/
def regsFromMemory (m : Machine) (x : Reg) : Vector UInt8 16 :=
  Vector.ofFn fun j => if j ≤ x then m.byteAt (m.index.toNat + j.val) else m.reg j

/-- The index register after a block transfer of registers 0 to `x`. -/
def indexPast (m : Machine) (x : Reg) : UInt16 := m.index + UInt16.ofNat (x.val + 1)

end Machine

namespace Instruction

/-- Run an instruction. -/
def execute (m : Machine) : Instruction → Machine
  | idle => m
  | clear => { m with screen := Screen.blank, dirty := true }
  | ret => { m with pc := m.stack.pop.1, stack := m.stack.pop.2 }
  | jump nnn => { m with pc := UInt16.ofNat nnn }
  | call nnn => { m with pc := UInt16.ofNat nnn, stack := m.stack.push m.pc }
  | skipEq x nn => m.skipIf (m.reg x == nn)
  | skipNe x nn => m.skipIf (m.reg x != nn)
  | skipEqReg x y => m.skipIf (m.reg x == m.reg y)
  | skipNeReg x y => m.skipIf (m.reg x != m.reg y)
  | load x nn => m.setReg x nn
  | addConst x nn => m.setReg x (m.reg x + nn)
  | alu op x y => m.combine op x y
  | setIndex nnn => { m with index := UInt16.ofNat nnn }
  | jumpPlus nnn => { m with pc := UInt16.ofNat nnn + (m.reg jumpReg).toUInt16 }
  | random x nn => { m.setReg x (m.rng.byte &&& nn) with rng := m.rng.next }
  | draw x y n => m.draw x y n
  | skipHeld x => m.skipIf (m.keyHeld x)
  | skipFree x => m.skipIf (!m.keyHeld x)
  | getDelay x => m.setReg x m.delay
  | awaitKey x => match m.keypad.lowest? with
    | some k => m.setReg x (UInt8.ofNat k)
    | none => { m with pc := m.pc - 2 }
  | setDelay x => { m with delay := m.reg x }
  | setSound x => { m with sound := m.reg x }
  | addIndex x =>
    let i := m.index + (m.reg x).toUInt16
    { m with index := i }.setFlag (0xFFF < i)
  | digitSprite x => { m with index := UInt16.ofNat (Font.start + Font.height * (m.reg x).toNat) }
  | storeDigits x =>
    { m with memory := Cells.writeAll m.memory m.index.toNat (Machine.decimalDigits (m.reg x)) }
  | storeRegs x =>
    { m with
      memory := Cells.writeAll m.memory m.index.toNat (m.firstRegs x)
      index := m.indexPast x }
  | loadRegs x => { m with regs := m.regsFromMemory x, index := m.indexPast x }

end Instruction

namespace Machine

/-- Run the instruction that a word reads as, without any check. -/
def execute (m : Machine) (word : Int) : Machine := (Instruction.ofWord word).execute m

end Machine

end Chip8
