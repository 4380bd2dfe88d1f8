/-
  Chip8/Instruction.lean
  ======================
  **Instructions** — one constructor per operation, with operands that cannot
  be out of range, and the reading of a word as an instruction.

  Reading is total.  A word that the classifier calls unknown still reads as
  something: as `idle` in the families that have a default, and as the skip on
  a held key for every word of family E other than the skip on a free one.
-/
import Chip8.Opcode

namespace Chip8

/-- A register number. -/
abbrev Reg := Fin 16

/-- A twelve-bit constant. -/
abbrev Address := Fin 4096

/-- What an arithmetic instruction computes from two registers. -/
inductive AluOp where
  | copy
  | or
  | and
  | xor
  | add
  | sub
  | halve
  | subFrom
  | double
  deriving DecidableEq, Repr

/-- The operations of the machine. -/
inductive Instruction where
  /-- Do nothing. -/
  | idle
  /-- Darken the whole screen. -/
  | clear
  /-- Return from a call. -/
  | ret
  /-- Continue at an address. -/
  | jump (nnn : Address)
  /-- Continue at an address and remember where to return. -/
  | call (nnn : Address)
  /-- Skip the next instruction if a register equals a constant. -/
  | skipEq (x : Reg) (nn : UInt8)
  /-- Skip the next instruction if a register differs from a constant. -/
  | skipNe (x : Reg) (nn : UInt8)
  /-- Skip the next instruction if two registers are equal. -/
  | skipEqReg (x y : Reg)
  /-- Skip the next instruction if two registers differ. -/
  | skipNeReg (x y : Reg)
  /-- Load a constant. -/
  | load (x : Reg) (nn : UInt8)
  /-- Add a constant; the flag register is left alone. -/
  | addConst (x : Reg) (nn : UInt8)
  /-- Combine two registers. -/
  | alu (op : AluOp) (x y : Reg)
  /-- Point the index register at an address. -/
  | setIndex (nnn : Address)
  /-- Continue at an address plus register 0. -/
  | jumpPlus (nnn : Address)
  /-- Load a random byte under a mask. -/
  | random (x : Reg) (nn : UInt8)
  /-- Draw `n` rows of a sprite at the position in two registers. -/
  | draw (x y : Reg) (n : Nat)
  /-- Skip the next instruction if the key in a register is held. -/
  | skipHeld (x : Reg)
  /-- Skip the next instruction if the key in a register is free. -/
  | skipFree (x : Reg)
  /-- Read the delay timer. -/
  | getDelay (x : Reg)
  /-- Wait for a key and store its number. -/
  | awaitKey (x : Reg)
  /-- Set the delay timer. -/
  | setDelay (x : Reg)
  /-- Set the sound timer. -/
  | setSound (x : Reg)
  /-- Advance the index register. -/
  | addIndex (x : Reg)
  /-- Point the index register at a built-in digit. -/
  | digitSprite (x : Reg)
  /-- Store the three decimal digits of a register. -/
  | storeDigits (x : Reg)
  /-- Store registers 0 to `x` and advance the index register past them. -/
  | storeRegs (x : Reg)
  /-- Load registers 0 to `x` and advance the index register past them. -/
  | loadRegs (x : Reg)
  deriving DecidableEq, Repr

namespace AluOp

/-- The arithmetic operation that a last nibble selects. -/
def ofNibble? : Nat → Option AluOp
  | 0x0 => some copy
  | 0x1 => some or
  | 0x2 => some and
  | 0x3 => some xor
  | 0x4 => some add
  | 0x5 => some sub
  | 0x6 => some halve
  | 0x7 => some subFrom
  | 0xE => some double
  | _ => none

end AluOp

namespace Instruction

/-- Read a word of family 0; the whole word has to match. -/
def ofSystemWord (word : Int) : Instruction :=
  if word = 0x00E0 then clear else if word = 0x00EE then ret else idle

/-- Read a word of the last family by its last byte. -/
def ofMiscByte (x : Reg) : Nat → Instruction
  | 0x07 => getDelay x
  | 0x0A => awaitKey x
  | 0x15 => setDelay x
  | 0x18 => setSound x
  | 0x1E => addIndex x
  | 0x29 => digitSprite x
  | 0x33 => storeDigits x
  | 0x55 => storeRegs x
  | 0x65 => loadRegs x
  | _ => idle

/-- Read an instruction from the fields of a word. -/
def ofOpcode (o : Opcode) : Instruction :=
  let x := Fin.ofNat 16 o.x
  let y := Fin.ofNat 16 o.y
  let nn := UInt8.ofNat o.nn
  let nnn := Fin.ofNat 4096 o.nnn
  match o.family with
  | 0x0 => ofSystemWord o.raw
  | 0x1 => jump nnn
  | 0x2 => call nnn
  | 0x3 => skipEq x nn
  | 0x4 => skipNe x nn
  | 0x5 => skipEqReg x y
  | 0x6 => load x nn
  | 0x7 => addConst x nn
  | 0x8 => match AluOp.ofNibble? o.n with
    | some op => alu op x y
    | none => idle
  | 0x9 => skipNeReg x y
  | 0xA => setIndex nnn
  | 0xB => jumpPlus nnn
  | 0xC => random x nn
  | 0xD => draw x y o.n
  | 0xE => if o.nn = 0xA1 then skipFree x else skipHeld x
  | _ => ofMiscByte x o.nn

/-- Read a word as an instruction. -/
def ofWord (word : Int) : Instruction := ofOpcode (Opcode.ofWord word)

example : ofWord 0xD125 = draw 1 2 5 := by decide +kernel
example : ofWord (-1) = idle := by decide +kernel
example : ofWord 0xE000 = skipHeld 0 := by decide +kernel

end Instruction

end Chip8
