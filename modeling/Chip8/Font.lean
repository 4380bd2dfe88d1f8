/-
  Chip8/Font.lean
  ===============
  **The built-in digits** — sprites of the sixteen hexadecimal digits, five
  rows each, that every machine carries at the bottom of memory.
-/
namespace Chip8.Font

/-- The address of the first digit. -/
def start : Nat := 0

/-- Rows, and so bytes, per digit. -/
def height : Nat := 5

/-- The rows of the digits `0` to `F`; the high four bits of a byte are drawn. -/
def rows : List UInt8 := [
  0xF0, 0x90, 0x90, 0x90, 0xF0,  0x20, 0x60, 0x20, 0x20, 0x70,
  0xF0, 0x10, 0xF0, 0x80, 0xF0,  0xF0, 0x10, 0xF0, 0x10, 0xF0,
  0x90, 0x90, 0xF0, 0x10, 0x10,  0xF0, 0x80, 0xF0, 0x10, 0xF0,
  0xF0, 0x80, 0xF0, 0x90, 0xF0,  0xF0, 0x10, 0x20, 0x40, 0x40,
  0xF0, 0x90, 0xF0, 0x90, 0xF0,  0xF0, 0x90, 0xF0, 0x10, 0xF0,
  0xF0, 0x90, 0xF0, 0x90, 0x90,  0xE0, 0x90, 0xE0, 0x90, 0xE0,
  0xF0, 0x80, 0x80, 0x80, 0xF0,  0xE0, 0x90, 0x90, 0x90, 0xE0,
  0xF0, 0x80, 0xF0, 0x80, 0xF0,  0xF0, 0x80, 0xF0, 0x80, 0x80]

example : rows.length = 16 * height := rfl

end Chip8.Font
