/-
  Chip8/Text/Hex.lean
  ===================
  **Hexadecimal text** — upper-case digits, padded with zeros to a total width
  in which the sign of a negative number counts as one place.
-/
namespace Chip8.Text.Hex

/-- The digits of a number, most significant first, without padding. -/
def digits (n : Nat) : List Char := (Nat.toDigits 16 n).map Char.toUpper

/-- A number padded with zeros on the left to at least `width` characters; the
    zeros stand between the sign and the digits. -/
def padded (width : Nat) (n : Int) : String :=
  let sign := if n < 0 then ['-'] else []
  let ds := digits n.natAbs
  String.ofList (sign ++ List.replicate (width - (sign.length + ds.length)) '0' ++ ds)

example : padded 3 512 = "200" := by decide +kernel
example : padded 4 (-1) = "-001" := by decide +kernel
example : padded 3 (-255) = "-FF" := by decide +kernel
example : padded 1 0 = "0" := by decide +kernel

end Chip8.Text.Hex
