/-
  Chip8/Text/Decimal.lean
  =======================
  **Decimal text of floating-point numbers** — the exact value of a number is
  taken apart into an integer and a power of two, and all rounding is integer
  division to the nearest, ties to the even neighbour.

  `fixed` prints a given number of decimals; `shortest` prints the fewest digits
  that read back as the same number, nearest of those.  `nearestBits` goes the
  other way, from a quotient to the number nearest to it.
-/
namespace Chip8.Text.Decimal

/-- A quotient rounded to the nearest integer, a tie to the even one. -/
def roundDiv (num den : Nat) : Nat :=
  let q := num / den
  let r := num % den
  if 2 * r < den then q else if den < 2 * r then q + 1 else q + q % 2

/-- The exact value of a number: `m * 2 ^ e`, negated or not, or none of them. -/
inductive Exact where
  | nan
  | infinite (negative : Bool)
  | finite (negative : Bool) (m : Nat) (e : Int)
  deriving DecidableEq, Repr

/-- The bits of a number are the sum of its fraction, of its exponent in units of this,
    two to the 52, ... -/
def exponentUnit : Nat := Nat.pow 2 52

/-- ... and, if it is negative, of this, two to the 63. -/
def signUnit : Nat := Nat.pow 2 63

/-- Take a number apart. -/
def Exact.ofFloat (x : Float) : Exact :=
  let bits := x.toBits.toNat
  let negative := bits / signUnit = 1
  let exponent : Nat := bits / exponentUnit % 2048
  let fraction : Nat := bits % exponentUnit
  if exponent = 2047 then if fraction = 0 then infinite negative else nan
  else if exponent = 0 then finite negative fraction (-1074)
  else finite negative (exponentUnit + fraction) ((exponent : Int) - 1075)

/-- Numerator and denominator of `m * 2 ^ e * 10 ^ k`. -/
def fraction (m : Nat) (e k : Int) : Nat × Nat :=
  (m * Nat.pow 2 e.toNat * Nat.pow 10 k.toNat, Nat.pow 2 (-e).toNat * Nat.pow 10 (-k).toNat)

/-- `m * 2 ^ e * 10 ^ k` rounded to an integer. -/
def scaled (m : Nat) (e k : Int) : Nat := roundDiv (fraction m e k).1 (fraction m e k).2

/-- The decimal digits of a number, most significant first. -/
def digits (n : Nat) : List Char := Nat.toDigits 10 n

/-- Put a sign in front. -/
def signed (negative : Bool) (cs : List Char) : String :=
  String.ofList (if negative then '-' :: cs else cs)

/-- Digits with a point before the last `places` of them. -/
def withPoint (places : Nat) (n : Nat) : List Char :=
  let ds := digits n
  let ds := List.replicate (places + 1 - ds.length) '0' ++ ds
  let whole := ds.take (ds.length - places)
  if places = 0 then whole else whole ++ '.' :: ds.drop (ds.length - places)

/-- A number with a fixed number of decimals. -/
def fixed (places : Nat) (x : Float) : String :=
  match Exact.ofFloat x with
  | .nan => "nan"
  | .infinite negative => signed negative "inf".toList
  | .finite negative m e => signed negative (withPoint places (scaled m e places))

/-- Blanks on the left up to a width. -/
def padLeft (width : Nat) (s : String) : String :=
  String.ofList (List.replicate (width - s.length) ' ') ++ s

/-! ### Nearest numbers -/

/-- The bits of the number nearest to a quotient without sign, the even one of two.
    The quotient is measured in units of the last of 53 binary digits; below the
    least such unit all numbers share it.  A carry into the next power of two is
    a carry into the exponent. -/
def nearestBits (num den : Nat) : Nat :=
  if num = 0 then 0
  else
    let inUnits (e : Int) : Nat × Nat :=
      (num * Nat.pow 2 (-e).toNat, den * Nat.pow 2 e.toNat)
    let e : Int := (num.log2 : Int) - den.log2 - 53
    let e := if 2 * exponentUnit * (inUnits e).2 ≤ (inUnits e).1 then e + 1 else e
    let e := max e (-1074)
    (e + 1074).toNat * exponentUnit + roundDiv (inUnits e).1 (inUnits e).2

/-- The bits of infinity, which all numbers are below. -/
def infinityBits : Nat := 2047 * exponentUnit

/-- A number from the bits of its size, and its sign. -/
def ofSizeBits (negative : Bool) (bits : Nat) : Float :=
  Float.ofBits (UInt64.ofNat (if negative then signUnit + bits else bits))

/-- The number nearest to a quotient of integers; none where it would be infinite. -/
def ofQuotient? (num den : Int) : Option Float :=
  let bits := nearestBits num.natAbs den.natAbs
  if bits < infinityBits then some (ofSizeBits (decide (num * den < 0)) bits) else none

/-- The number nearest to an integer; none where it would be infinite. -/
def ofInt? (i : Int) : Option Float := ofQuotient? i 1

/-- The number nearest to `m * 10 ^ p`, infinity if it is beyond all others.  Powers
    beyond all numbers are cut short. -/
def ofDecimal (m : Nat) (p : Int) : Float :=
  let reach : Int := (digits m).length + 800
  let p := max (-reach) (min p reach)
  ofSizeBits false (min infinityBits (nearestBits (m * Nat.pow 10 p.toNat) (Nat.pow 10 (-p).toNat)))

/-- Change the sign of a number, or leave it. -/
def negateIf (negative : Bool) (x : Float) : Float := if negative then -x else x

/-! ### Fewest digits -/

/-- A number `d * 10 ^ p`. -/
structure Number where
  d : Nat
  p : Int
  deriving DecidableEq, Repr

/-- Whether `d * 10 ^ p` reads back as `m * 2 ^ e`: it lies within half a unit of
    the last place, the ends included if `m` is even.  Below a power of two the
    units are half as large. -/
def Number.readsBackAs (t : Number) (m : Nat) (e : Int) : Bool :=
  let narrow := m = exponentUnit ∧ -1074 < e
  let below := if narrow then 4 * m - 1 else 4 * m - 2
  let above := 4 * m + 2
  let (num, den) := fraction (4 * t.d) (-e) t.p
  if m % 2 = 0 then below * den ≤ num && num ≤ above * den
  else below * den < num && num < above * den

/-- The power of ten above `m * 2 ^ e`: the least `k` with `m * 2 ^ e < 10 ^ k`,
    found upwards from a lower bound.  Fuel bounds the search. -/
def magnitude (m : Nat) (e : Int) : (fuel : Nat) → Int → Int
  | 0, k => k
  | fuel + 1, k =>
    let (num, den) := fraction m e (-k)
    if num < den then k else magnitude m e fuel (k + 1)

/-- The neighbours of `m * 2 ^ e` with `n` digits that read back, nearest first. -/
def candidates (m : Nat) (e k : Int) (n : Nat) : List Number :=
  let p := k - n
  let (num, den) := fraction m e (-p)
  let low := num / den
  let near := roundDiv num den
  let far := if near = low then low + 1 else low
  [⟨near, p⟩, ⟨far, p⟩].filter fun t => t.readsBackAs m e

/-- The number with the fewest digits that reads back, trying `n` digits and
    more; seventeen always do. -/
def shortestFrom (m : Nat) (e k : Int) : (fuel : Nat) → Nat → Number
  | 0, n => ⟨scaled m e (n - k), k - n⟩
  | fuel + 1, n =>
    match candidates m e k n with
    | t :: _ => t
    | [] => shortestFrom m e k fuel (n + 1)

/-- Digits without trailing zeros, as many more powers of ten. -/
def Number.trim : (fuel : Nat) → Number → Number
  | 0, t => t
  | fuel + 1, t =>
    if t.d % 10 = 0 ∧ t.d ≠ 0 then Number.trim fuel ⟨t.d / 10, t.p + 1⟩ else t

/-- How the shortest digits of a number are laid out. -/
structure Layout where
  /-- The least exponent of the first digit that is written with a point. -/
  leastPositional : Int
  /-- The first exponent that is no longer written with a point. -/
  endPositional : Int
  /-- The least number of digits of a written exponent. -/
  exponentDigits : Nat

/-- Numbers from a ten-thousandth up to ten to the sixteenth are written with a
    point, others with an exponent of two digits or more. -/
def plainLayout : Layout := ⟨-4, 16, 2⟩

/-- Lay out digits; a number without a fraction keeps one zero after its point
    when it is written with a point. -/
def Layout.render (l : Layout) (t : Number) : List Char :=
  let ds := digits t.d
  let exponent := t.p + ds.length - 1
  if l.leastPositional ≤ exponent ∧ exponent < l.endPositional then
    if exponent < 0 then
      '0' :: '.' :: List.replicate (-exponent - 1).toNat '0' ++ ds
    else
      let whole := exponent.toNat + 1
      let ds := ds ++ List.replicate (whole - ds.length) '0'
      let rest := ds.drop whole
      ds.take whole ++ '.' :: (if rest.isEmpty then ['0'] else rest)
  else
    let es := digits exponent.natAbs
    let mantissa := match ds with
      | [d] => [d]
      | d :: r => d :: '.' :: r
      | [] => []
    mantissa ++ 'e' :: (if exponent < 0 then '-' else '+') ::
      (List.replicate (l.exponentDigits - es.length) '0' ++ es)

/-- A number in the fewest digits that read back. -/
def shortest (x : Float) : String :=
  match Exact.ofFloat x with
  | .nan => "nan"
  | .infinite negative => signed negative "inf".toList
  | .finite negative m e =>
    if m = 0 then signed negative "0.0".toList
    else
      let k := magnitude m e 700 (-324)
      signed negative (plainLayout.render (Number.trim 20 (shortestFrom m e k 17 1)))

example : roundDiv 5 2 = 2 ∧ roundDiv 7 2 = 4 ∧ roundDiv 8 3 = 3 := by decide
example : nearestBits 1 1 = 0x3FF0000000000000 ∧
    nearestBits 1 10 = 0x3FB999999999999A := by decide

end Chip8.Text.Decimal
