/-
  Chip8/Text/Base64.lean
  ======================
  **Bytes as text of sixty-four characters** — four characters hold three bytes,
  and one or two characters of padding fill the last four up.  Characters
  outside the alphabet are passed over, and what follows the padding is not read.
-/
namespace Chip8.Text.Base64

/-- The six bits of a character. -/
def sixBits? (c : Char) : Option Nat :=
  if 'A' ≤ c ∧ c ≤ 'Z' then some (c.toNat - 'A'.toNat)
  else if 'a' ≤ c ∧ c ≤ 'z' then some (c.toNat - 'a'.toNat + 26)
  else if '0' ≤ c ∧ c ≤ '9' then some (c.toNat - '0'.toNat + 52)
  else if c = '+' then some 62
  else if c = '/' then some 63
  else none

/-- Read on after `place` characters of four, the last of which left `held` bits
    over, and after `pads` characters of padding. -/
def decodeFrom (place held pads : Nat) : List Char → Option (List UInt8)
  | [] => if place = 0 then some [] else none
  | c :: r =>
    if c = '=' then
      if 2 ≤ place then
        if 4 ≤ place + (pads + 1) then some [] else decodeFrom place held (pads + 1) r
      else decodeFrom place held pads r
    else match sixBits? c with
      | none => decodeFrom place held pads r
      | some n =>
        if place = 0 then decodeFrom 1 n 0 r
        else if place = 1 then
          (decodeFrom 2 (n % 16) 0 r).map (UInt8.ofNat (held * 4 + n / 16) :: ·)
        else if place = 2 then
          (decodeFrom 3 (n % 4) 0 r).map (UInt8.ofNat (held * 16 + n / 4) :: ·)
        else (decodeFrom 0 0 0 r).map (UInt8.ofNat (held * 64 + n) :: ·)

/-- The bytes of a text; `none` where the last four characters are not full. -/
def decode (s : List Char) : Option (List UInt8) := decodeFrom 0 0 0 s

/-- The number of characters of the alphabet in a text. -/
def count (s : List Char) : Nat := s.countP fun c => (sixBits? c).isSome

example : decode "aGk=".toList = some [104, 105] := by decide +kernel
example : decode "aGk".toList = none := by decide +kernel

end Chip8.Text.Base64
