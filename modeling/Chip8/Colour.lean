/-
  Chip8/Colour.lean
  =================
  **Colours and colour schemes** — a colour is a triple of numbers that should
  be bytes, and a scheme names one colour for lit cells and one for dark ones.
-/
namespace Chip8

/-- A pixel: three bytes. -/
structure Rgb where
  red : UInt8
  green : UInt8
  blue : UInt8
  deriving DecidableEq, Repr

/-- A colour as it is asked for; its components are pixels only below 256. -/
structure Colour where
  red : Int
  green : Int
  blue : Int
  deriving DecidableEq, Repr

namespace Colour

/-- A number is a byte. -/
def isByte (n : Int) : Bool := 0 ≤ n && n < 256

/-- The pixel of a colour whose components are bytes. -/
def toRgb? (c : Colour) : Option Rgb :=
  if isByte c.red && isByte c.green && isByte c.blue then
    some ⟨UInt8.ofNat c.red.toNat, UInt8.ofNat c.green.toNat, UInt8.ofNat c.blue.toNat⟩
  else none

/-- All components full. -/
def white : Colour := ⟨255, 255, 255⟩

/-- All components zero. -/
def black : Colour := ⟨0, 0, 0⟩

end Colour

/-- Two colours under a name. -/
structure Scheme where
  name : String
  on : Colour
  off : Colour
  deriving DecidableEq, Repr

namespace Scheme

/-- The schemes, in the order in which messages list them. -/
def all : List Scheme := [
  ⟨"white", Colour.white, Colour.black⟩,
  ⟨"classic", ⟨0, 255, 0⟩, Colour.black⟩,
  ⟨"amber", ⟨255, 176, 0⟩, Colour.black⟩,
  ⟨"blue", ⟨0, 255, 255⟩, ⟨0, 0, 64⟩⟩,
  ⟨"retro", ⟨255, 255, 0⟩, ⟨64, 0, 64⟩⟩]

/-- The names of the schemes. -/
def names : List String := all.map Scheme.name

/-- The scheme of a name. -/
def find? (name : String) : Option Scheme := all.find? fun s => s.name == name

end Scheme

end Chip8
