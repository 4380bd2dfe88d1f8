/-
  Chip8/Clock.lean
  ================
  **Readings of a clock** — seconds, counted exactly or told with a fraction, and
  what is computed from them.

  The difference of exact readings is exact; where a fraction is needed, a number
  of seconds beyond all numbers with one has no value.
-/
import Chip8.Text.Decimal

namespace Chip8

/-- A number of seconds. -/
inductive Seconds where
  | whole (n : Int)
  | real (x : Float)

namespace Seconds

/-- Seconds as a number with a fraction. -/
def toFloat? : Seconds → Option Float
  | whole n => Text.Decimal.ofInt? n
  | real x => some x

/-- The seconds between two readings. -/
def since? (now start : Seconds) : Option Seconds :=
  match now, start with
  | whole m, whole n => some (whole (m - n))
  | now, start => now.toFloat?.bind fun x => start.toFloat?.map fun y => real (x - y)

/-- Cycles per second; zero if no time has passed. -/
def rate? (cycles : Int) (elapsed : Seconds) : Option Float :=
  match elapsed with
  | whole n => if 0 < n then Text.Decimal.ofQuotient? cycles n else some 0.0
  | real x => if 0.0 < x then (Text.Decimal.ofInt? cycles).map (· / x) else some 0.0

end Seconds

end Chip8
