/-
  Chip8/Picture.lean
  ==================
  **Pictures of the screen** — every cell becomes a square of pixels, in one of
  two colours.

  A picture is the list of its rows, so that the size of a picture and each of
  its pixels can be read off; a square is made by repeating pixels in a row and
  then rows.
-/
import Chip8.Error
import Chip8.Screen

namespace Chip8

/-- Rows of pixels, from the top. -/
abbrev Picture := List (List Rgb)

namespace Picture

/-- Rows. -/
def height (p : Picture) : Nat := p.length

/-- Pixels per row. -/
def width (p : Picture) : Nat := (p.headD []).length

/-- A pixel. -/
def pixel? (p : Picture) (r c : Nat) : Option Rgb := p[r]?.bind fun row => row[c]?

/-- Repeat every element of a list. -/
def stretch {α : Type} (k : Nat) (l : List α) : List α := l.flatMap fun a => List.replicate k a

/-- The colour of a cell: every cell that is not zero is lit. -/
def ofCell (on off : Rgb) (cell : UInt8) : Rgb := if cell = 0 then off else on

/-- The rows of cells of a screen. -/
def cellRows (cells : List UInt8) : List (List UInt8) :=
  (List.range Screen.height).map fun r => (cells.drop (Screen.width * r)).take Screen.width

/-- Draw the cells of a screen with squares of a given size. -/
def ofCells (cells : List UInt8) (scale : Nat) (on off : Rgb) : Picture :=
  stretch scale ((cellRows cells).map fun row => stretch scale (row.map (ofCell on off)))

/-- A number that takes more than 63 bits. -/
def countLimit : Int := 0x8000000000000000

/-- Bytes of a screen with one pixel for each cell. -/
def bytesPerScreen : Int := 3 * Screen.size

/-- Why no picture with squares of a size can be drawn on a host: rows are repeated
    before the pixels in them are, each time into an array of its own.  Squares of one pixel
    need no repetition. -/
def refusal? (host : Host) (scale : Int) : Option Error :=
  if scale ≤ 1 then none
  else if countLimit ≤ scale then some .scaleOutOfRange
  else if countLimit ≤ bytesPerScreen * scale then some .pictureOutOfRange
  else if !host.allocates (bytesPerScreen * scale) then some .pictureTooLarge
  else if countLimit ≤ bytesPerScreen * scale * scale then some .pictureOutOfRange
  else if !host.allocates (bytesPerScreen * scale * scale) then some .pictureTooLarge
  else none

/-- Draw a list of cells on a host: it has to be one screen, the squares have to have at
    least one pixel, the colours have to be colours of pixels, and the picture has to fit
    in memory. -/
def render (host : Host) (cells : List UInt8) (scale : Int) (on off : Colour) :
    Except Error Picture :=
  if scale < 1 then .error (.badScale scale)
  else if cells.length ≠ Screen.size then .error (.badCellCount cells.length)
  else match on.toRgb?, off.toRgb?, refusal? host scale with
    | some on, some off, none => .ok (ofCells cells scale.toNat on off)
    | some _, some _, some e => .error e
    | _, _, _ => .error .colourOutOfRange

/-- The colours of a scheme. -/
def scheme (name : String) : Except Error Scheme :=
  match Scheme.find? name with
  | some s => .ok s
  | none => .error (.unknownScheme name)

/-! ### Stretching -/

theorem length_stretch {α : Type} (k : Nat) (l : List α) :
    (stretch k l).length = k * l.length := by
  induction l with
  | nil => rfl
  | cons a l ih =>
    rw [stretch, List.flatMap_cons, List.length_append, List.length_replicate]
    change k + (stretch k l).length = k * (l.length + 1)
    rw [ih, Nat.mul_succ, Nat.add_comm]

/-- An element of a stretched list is the element that its block was made from. -/
theorem getElem?_stretch {α : Type} {k : Nat} (hk : 0 < k) (l : List α) (i : Nat) :
    (stretch k l)[i]? = l[i / k]? := by
  induction l generalizing i with
  | nil => simp [stretch]
  | cons a l ih =>
    rw [stretch, List.flatMap_cons]
    change (List.replicate k a ++ stretch k l)[i]? = _
    by_cases h : i < k
    · rw [List.getElem?_append_left (by simpa using h), Nat.div_eq_of_lt h]
      simp [h]
    · have hik : k ≤ i := Nat.le_of_not_lt h
      have hdiv : i / k = (i - k) / k + 1 := by
        rw [Nat.div_eq_sub_div hk hik]
      rw [List.getElem?_append_right (by simpa using hik), List.length_replicate, ih, hdiv,
        List.getElem?_cons_succ]

end Picture

end Chip8
