/-
  Chip8/Error.lean
  ================
  **What can go wrong** — every failure of the emulator is one constructor that
  carries the values it is about; `Error.message?` is the only place where a
  failure becomes text.

  `Error.isFault` separates the faults of an emulated program (and of loading
  one) from misuse of an operation by its caller.
-/
import Chip8.Colour
import Chip8.Host
import Chip8.Text.Hex

namespace Chip8

open Chip8.Text

/-- The failures of loading, stepping, running and drawing. -/
inductive Error where
  /-- A program image larger than program memory. -/
  | capacityExceeded (size capacity : Int)
  /-- A fetched word that is no instruction. -/
  | unknownOpcode (word pc : Int)
  /-- A call with every stack entry in use. -/
  | stackOverflow (pc : Int)
  /-- A return with no call to return from. -/
  | stackUnderflow (pc : Int)
  /-- An instruction that does not lie wholly inside memory. -/
  | fetchOutOfMemory (pc : Int)
  /-- A key outside the keypad. -/
  | noSuchKey (key : Int)
  /-- A picture cannot be drawn with less than one pixel per cell. -/
  | badScale (scale : Int)
  /-- A picture is drawn from exactly one screen of cells. -/
  | badCellCount (size : Nat)
  /-- A colour scheme that does not exist. -/
  | unknownScheme (name : String)
  /-- A colour component that is no byte. -/
  | colourOutOfRange
  /-- A picture that memory does not hold. -/
  | pictureTooLarge
  /-- A picture with more bytes than can be counted in 64 signed bits. -/
  | pictureOutOfRange
  /-- A scale that does not fit in 64 signed bits. -/
  | scaleOutOfRange
  /-- A seed that does not fit in 64 signed bits. -/
  | seedOutOfRange
  /-- Frames of zero cycles have no boundaries. -/
  | emptyFrame
  /-- A number of cycles that does not fit in 64 signed bits. -/
  | countOutOfRange
  /-- An error of the host. -/
  | refused (r : Refusal)
  deriving DecidableEq, Repr

/-- A list of names as the messages show it: each in single quotes. -/
def quotedList (names : List String) : String :=
  ", ".intercalate (names.map fun s => "'" ++ s ++ "'")

/-- The text for an unknown colour scheme. -/
def unknownSchemeText (name : String) : String :=
  s!"Unknown color scheme '{name}'. Available: [{quotedList Scheme.names}]"

namespace Error

/-- The text of a failure, if it is worded here; addresses have three hexadecimal places,
    words four. -/
def message? : Error → Option String
  | capacityExceeded size capacity =>
    some s!"ROM is {size} bytes, program memory holds at most {capacity}"
  | unknownOpcode word pc =>
    some s!"Unknown opcode 0x{Hex.padded 4 word} at 0x{Hex.padded 3 pc}"
  | stackOverflow pc => some s!"Stack overflow on call at 0x{Hex.padded 3 pc}"
  | stackUnderflow pc => some s!"Stack underflow on return at 0x{Hex.padded 3 pc}"
  | fetchOutOfMemory pc => some s!"Instruction fetch out of memory at 0x{Hex.padded 3 pc}"
  | noSuchKey key => some s!"Keypad has keys 0x0-0xF, got {key}"
  | badScale scale => some s!"Scale must be a positive integer, got {scale}"
  | badCellCount size => some s!"cannot reshape array of size {size} into shape (32,64)"
  | unknownScheme name => some (unknownSchemeText name)
  | emptyFrame => some "integer modulo by zero"
  | colourOutOfRange | pictureTooLarge | pictureOutOfRange | scaleOutOfRange | seedOutOfRange
  | countOutOfRange | refused _ => none

/-- The text of a failure, as far as it has one. -/
def message (e : Error) : String := e.message?.getD ""

/-- The faults of an emulated program, which halt a run, as opposed to misuse
    of an operation. -/
def isFault : Error → Bool
  | capacityExceeded .. | unknownOpcode .. | stackOverflow .. | stackUnderflow ..
  | fetchOutOfMemory .. => true
  | _ => false

/-- Every fault has a text. -/
theorem message?_of_isFault {e : Error} (h : e.isFault = true) : e.message? = some e.message := by
  cases e <;> first | rfl | cases h

end Error

end Chip8
