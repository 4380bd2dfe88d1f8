/-
  Chip8/Text/Quoted.lean
  ======================
  **Quoted text** — a text between single quotes, or between double quotes if it
  holds a single quote and no double one, with escapes for the quote, the
  backslash and every character that has no visible form.
-/
import Chip8.Text.Printable

namespace Chip8.Text.Quoted

/-- A number in lower-case hexadecimal digits, padded with zeros. -/
def hex (width n : Nat) : List Char :=
  let ds := Nat.toDigits 16 n
  List.replicate (width - ds.length) '0' ++ ds

/-- The number of a character after a backslash. -/
def numbered (c : Char) : List Char :=
  let n := c.toNat
  if n < 0x100 then '\\' :: 'x' :: hex 2 n
  else if n < 0x10000 then '\\' :: 'u' :: hex 4 n
  else '\\' :: 'U' :: hex 8 n

/-- A character inside a quoted text. -/
def escape (quote c : Char) : List Char :=
  if c = quote ∨ c = '\\' then ['\\', c]
  else if c = '\n' then ['\\', 'n']
  else if c = '\r' then ['\\', 'r']
  else if c = '\t' then ['\\', 't']
  else if isPrintable c then [c] else numbered c

/-- The quotation mark for a text. -/
def mark (s : List Char) : Char := if s.contains '\'' && !s.contains '"' then '"' else '\''

/-- A text in quotes. -/
def encode (s : String) : String :=
  let quote := mark s.toList
  String.ofList (quote :: s.toList.flatMap (escape quote) ++ [quote])

/-- A byte inside quoted bytes. -/
def escapeByte (quote : Char) (b : UInt8) : List Char :=
  let c := Char.ofNat b.toNat
  if c = quote ∨ c = '\\' then ['\\', c]
  else if c = '\n' then ['\\', 'n']
  else if c = '\r' then ['\\', 'r']
  else if c = '\t' then ['\\', 't']
  else if 0x20 ≤ b ∧ b < 0x7F then [c]
  else '\\' :: 'x' :: hex 2 b.toNat

/-- Bytes in quotes after the letter for them. -/
def encodeBytes (bs : List UInt8) : String :=
  let quote := mark (bs.map fun b => Char.ofNat b.toNat)
  String.ofList ('b' :: quote :: bs.flatMap (escapeByte quote) ++ [quote])

example : encode "r" = "'r'" := by decide +kernel
example : encode "it's" = "\"it's\"" := by decide +kernel

end Chip8.Text.Quoted
