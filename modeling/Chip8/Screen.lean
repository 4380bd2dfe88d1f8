/-
  Chip8/Screen.lean
  =================
  **The screen** — 64 by 32 cells in row-major order, a byte for each, and the law
  of drawing on it: a picture is laid over the screen by exclusive or, cell by
  cell, and hits if both had a lit cell in the same place.

  A cell is lit if its byte is 1 and dark if it is 0.  Nothing here keeps other bytes
  away; that no machine ever comes to hold one is a property of its runs.
-/
namespace Chip8

namespace Screen

/-- Cells per row. -/
def width : Nat := 64

/-- Rows. -/
def height : Nat := 32

/-- All cells. -/
def size : Nat := 2048

end Screen

/-- The bytes of the cells; the cell in column `c` of row `r` is `c + 64 * r`. -/
abbrev Screen := Vector UInt8 2048

namespace Screen

/-- No cell is lit. -/
def blank : Screen := Vector.replicate 2048 0

/-- The screen whose cell in column `c` of row `r` is `f c r`. -/
def ofCells (f : Nat → Nat → UInt8) : Screen :=
  Vector.ofFn fun i => f (i.val % width) (i.val / width)

/-- The cell in a column of a row; outside the screen nothing is lit. -/
def cell (s : Screen) (c r : Nat) : UInt8 :=
  if c < width ∧ r < height then s.getD (c + width * r) 0 else 0

/-- Lay one screen over another: a cell is lit where exactly one of them is. -/
def overlay (s t : Screen) : Screen := Vector.zipWith (· ^^^ ·) s t

/-- Both screens have a lit cell in the same place. -/
def hits (s t : Screen) : Bool := (Vector.zipWith (· &&& ·) s t).any (· == 1)

/-! ### Reading a drawn screen back -/

theorem getElem_ofCells (f : Nat → Nat → UInt8) (i : Nat) (h : i < 2048) :
    (ofCells f)[i] = f (i % width) (i / width) := by
  simp only [ofCells, Vector.getElem_ofFn]

theorem getElem_overlay (s t : Screen) (i : Nat) (h : i < 2048) :
    (overlay s t)[i] = s[i] ^^^ t[i] := by
  simp only [overlay, Vector.getElem_zipWith]

theorem hits_iff (s t : Screen) :
    hits s t = true ↔ ∃ (i : Nat) (h : i < 2048), s[i] &&& t[i] = 1 := by
  simp [hits, Vector.any_eq_true]

end Screen

end Chip8
