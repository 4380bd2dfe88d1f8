/-
  Chip8/Text/Numeral.lean
  =======================
  **Numbers in text** — integers with a sign and with digits of any script, in
  base ten or in a base with a mark of its own, and numbers with a fraction.

  Decimal text of integers has a limit: more digits are neither read nor written.
  In a base that is a power of two there is none.
-/
import Chip8.Text.Blank
import Chip8.Text.Decimal

namespace Chip8.Text

/-- The most digits that decimal text of an integer has. -/
def digitLimit : Nat := 4300

/-! ### Integers -/

/-- Digits, each of which may be followed by a low line if a digit comes after
    that; `none` for any other text. -/
def readDigits (acc : Nat) : List Char → Option Nat
  | [] => some acc
  | '_' :: c :: r => (digitValue? c).bind fun d => readDigits (10 * acc + d) r
  | c :: r => (digitValue? c).bind fun d => readDigits (10 * acc + d) r

/-- Digits, at least one of them and not more than the limit. -/
def readNat? (s : List Char) : Option Nat :=
  if digitLimit < s.countP (fun c => c != '_') then none
  else match s with
    | [] => none
    | c :: r => (digitValue? c).bind fun d => readDigits d r

/-- Split off a sign: negative or not, and the rest. -/
def splitSign : List Char → Bool × List Char
  | '-' :: r => (true, r)
  | '+' :: r => (false, r)
  | r => (false, r)

/-- A size with a sign. -/
def withSign (negative : Bool) (n : Nat) : Int := if negative then -(n : Int) else n

/-- An integer with an optional sign and blanks around it. -/
def readInt? (s : List Char) : Option Int :=
  let (negative, r) := splitSign (trimSpaces s)
  (readNat? r).map (withSign negative)

/-- The value of a letter or digit in bases above ten. -/
def hexDigitValue? (c : Char) : Option Nat :=
  if 'a' ≤ c ∧ c ≤ 'f' then some (c.toNat - 'a'.toNat + 10)
  else if 'A' ≤ c ∧ c ≤ 'F' then some (c.toNat - 'A'.toNat + 10)
  else digitValue? c

/-- Digits of a base, at least one of them. -/
def readDigitsIn? (base : Nat) : List Char → Option Nat
  | [] => none
  | s => s.foldlM (fun n c => (hexDigitValue? c).bind fun d =>
      if d < base then some (base * n + d) else none) 0

/-- An integer in a base, with an optional sign, an optional zero with the letter
    of the base, and blanks around it. -/
def readIntIn? (base : Nat) (letter : Char) (s : List Char) : Option Int :=
  let (negative, r) := splitSign (trimSpaces s)
  let digits := match r with
    | '0' :: c :: r' => if c.toLower == letter then r' else r
    | _ => r
  (readDigitsIn? base digits).map (withSign negative)

/-- The decimal text of an integer, if it is not too long. -/
def intText? (i : Int) : Option String :=
  if i.natAbs < Nat.pow 10 digitLimit then some (toString i) else none

/-! ### Numbers with a fraction -/

/-- Digits of any script as a number; other characters count nothing. -/
def decimalValue (s : List Char) : Nat := s.foldl (fun n c => 10 * n + (digitValue? c).getD 0) 0

/-- A digit of any script. -/
def isDecimalDigit (c : Char) : Bool := (digitValue? c).isSome

/-- An exponent: a mark, an optional sign and digits; no text at all is zero. -/
def readExponent? : List Char → Option Int
  | [] => some 0
  | c :: r =>
    let (negative, ds) := splitSign r
    if (c == 'e' || c == 'E') && !ds.isEmpty && ds.all isDecimalDigit then
      some (withSign negative (decimalValue ds))
    else none

/-- A number without a sign: digits with at most one point among them, and an
    exponent. -/
def readSize? (s : List Char) : Option Float :=
  let (whole, r) := s.span isDecimalDigit
  let (fraction, r) := match r with
    | '.' :: r => r.span isDecimalDigit
    | _ => ([], r)
  if whole.isEmpty && fraction.isEmpty then none
  else (readExponent? r).map fun e =>
    Decimal.ofDecimal (decimalValue (whole ++ fraction)) (e - fraction.length)

/-- The words for infinity. -/
def infinityWords : List (List Char) := ["inf".toList, "infinity".toList]

/-- A number with an optional sign and blanks around it; the words for infinity
    and for no number are in letters of any size. -/
def readFloat? (s : List Char) : Option Float :=
  let (negative, r) := splitSign (trimSpaces s)
  let word := r.map Char.toLower
  if infinityWords.contains word then some (Decimal.negateIf negative (1.0 / 0.0))
  else if word = "nan".toList then some (0.0 / 0.0)
  else (readSize? r).map (Decimal.negateIf negative)

example : readInt? " 1_0 ".toList = some 10 := by decide +kernel
example : readInt? "1__0".toList = none := by decide +kernel
example : readIntIn? 8 'o' "-0o17".toList = some (-15) := by decide +kernel

end Chip8.Text
