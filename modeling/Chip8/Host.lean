/-
  Chip8/Host.lean
  ===============
  **The host of a run** — what the computer that a run is shown on allows: windows of
  some sizes, rates at which its clock can wait, arrays that fit in its memory.

  Nothing of this follows from a program or its settings, so it is a parameter of
  pictures and windows.  What a host refuses, it refuses with an error of its own, of
  which only the kind is told here (`Refusal`).
-/
namespace Chip8

/-- An error that comes from outside: its kind. -/
structure Refusal where
  kind : String
  deriving DecidableEq, Repr

/-- What a computer allows. -/
structure Host where
  /-- Why no window of a width and a height can be opened. -/
  windowRefusal? : Int → Int → Option Refusal
  /-- Why the clock cannot wait for the next of so many pictures per second. -/
  paceRefusal? : Int → Option Refusal
  /-- An array of so many bytes fits in memory. -/
  allocates : Int → Bool
  /-- Why a picture of a width and a height cannot be put into a window. -/
  surfaceRefusal? : Int → Int → Option Refusal

namespace Host

/-- A host that refuses nothing. -/
def boundless : Host where
  windowRefusal? _ _ := none
  paceRefusal? _ := none
  allocates _ := true
  surfaceRefusal? _ _ := none

/-! ### Hosts with limits -/

/-- The number that the side of a window cannot even be compared with: it takes more
    than 63 bits. -/
def sideLimit : Int := 0x8000000000000000

/-- The number of a side that counts: that of its last 32 bits, with a sign. -/
def counted (side : Int) : Int := side.bmod 0x100000000

/-- A side that a window can have; zero stands for that of the screen it is on. -/
def isSide (longest side : Int) : Bool := 0 ≤ counted side && counted side ≤ longest

/-- The least number that is too large for a number with a fraction: halfway between
    the largest of these and the next power of two. -/
def rateLimit : Nat := Nat.pow 2 1024 - Nat.pow 2 970

/-- A host whose windows have sides of up to so many pixels, with a memory of so many
    bytes. -/
def desktop (longest memory : Int) : Host where
  windowRefusal? width height :=
    if sideLimit ≤ width ∨ sideLimit ≤ height then some ⟨"TypeError"⟩
    else if isSide longest width && isSide longest height then none
    else some ⟨"error"⟩
  paceRefusal? rate := if rate < rateLimit then none else some ⟨"OverflowError"⟩
  allocates size := size < memory
  surfaceRefusal? _ _ := none

end Host

end Chip8
