/-
  Chip8/Yaml/Timestamp.lean
  =========================
  **Dates and times** — a date, or a date with a time of day, a fraction of a
  second and an offset.

  Settings hold no dates, so of a timestamp it matters only whether it has the
  form of one, whether there is such a date, and whether a time follows it.
-/
import Chip8.Yaml.Token

namespace Chip8.Yaml

/-- A timestamp as written. -/
structure Timestamp where
  year : Nat
  month : Nat
  day : Nat
  /-- Hour, minute and second. -/
  time : Option (Nat × Nat × Nat) := none
  /-- The hours and minutes of the offset. -/
  offset : Nat × Nat := (0, 0)
  deriving DecidableEq, Repr

namespace Timestamp

/-- The number that some digits write. -/
def ofDigits (s : List Char) : Nat := s.foldl (fun n c => 10 * n + (c.toNat - '0'.toNat)) 0

/-- Split off a number of at least `least` and at most `most` digits. -/
def digits? (least most : Nat) (s : List Char) : Option (Nat × List Char) :=
  let ds := (s.take most).takeWhile Char.isDigit
  if least ≤ ds.length then some (ofDigits ds, s.drop ds.length) else none

/-- Split off a character. -/
def mark? (c : Char) : List Char → Option (List Char)
  | d :: r => if d = c then some r else none
  | [] => none

/-- Year, month and day. -/
def date? (s : List Char) : Option (Timestamp × List Char) := do
  let (year, r) ← digits? 4 4 s
  let (month, r) ← digits? 1 2 (← mark? '-' r)
  let (day, r) ← digits? 1 2 (← mark? '-' r)
  return (⟨year, month, day, none, (0, 0)⟩, r)

/-- What separates the time from the date: a letter, or blanks. -/
def separator? : List Char → Option (List Char)
  | [] => none
  | c :: r =>
    if c = 'T' ∨ c = 't' then some r
    else if isBlank c then some (r.dropWhile isBlank)
    else none

/-- Hour, minute and second, with a fraction that is passed over. -/
def time? (s : List Char) : Option ((Nat × Nat × Nat) × List Char) := do
  let (hour, r) ← digits? 1 2 s
  let (minute, r) ← digits? 2 2 (← mark? ':' r)
  let (second, r) ← digits? 2 2 (← mark? ':' r)
  let r := match r with
    | '.' :: r => r.dropWhile Char.isDigit
    | _ => r
  return ((hour, minute, second), r)

/-- Hours and minutes of an offset, up to the end of the text. -/
def hours? (s : List Char) : Option (Nat × Nat) := do
  let (hours, r) ← digits? 1 2 s
  if r.isEmpty then return (hours, 0)
  let (minutes, r) ← digits? 2 2 (← mark? ':' r)
  if r.isEmpty then return (hours, minutes) else none

/-- An offset up to the end of the text; it may be missing. -/
def offset? (s : List Char) : Option (Nat × Nat) :=
  if s.isEmpty then some (0, 0)
  else match s.dropWhile isBlank with
    | ['Z'] => some (0, 0)
    | c :: r => if c = '+' ∨ c = '-' then hours? r else none
    | [] => none

/-- A text of the form of a timestamp; a line feed at its end does not matter. -/
def ofText? (s : List Char) : Option Timestamp :=
  let s := if s.getLast? = some '\n' then s.dropLast else s
  match date? s with
  | none => none
  | some (t, []) => some t
  | some (t, r) => do
    let (time, r) ← time? (← separator? r)
    return { t with time := some time, offset := ← offset? r }

/-- A year with a day between February and March. -/
def isLeap (year : Nat) : Bool := year % 4 == 0 && (year % 100 != 0 || year % 400 == 0)

/-- The number of days of a month. -/
def daysOf (year month : Nat) : Nat :=
  if month = 2 then (if isLeap year then 29 else 28)
  else if [4, 6, 9, 11].contains month then 30
  else 31

/-- What is wrong with a date, if there is none such. -/
def dateProblem? (t : Timestamp) : Option String :=
  if t.year = 0 then some "year 0 is out of range"
  else if t.month < 1 ∨ 12 < t.month then some "month must be in 1..12"
  else if t.day < 1 ∨ daysOf t.year t.month < t.day then some "day is out of range for month"
  else none

/-- What is wrong with a time of day, if there is none such. -/
def timeProblem? : Nat × Nat × Nat → Option String
  | (h, m, s) =>
    if 24 ≤ h then some "hour must be in 0..23"
    else if 60 ≤ m then some "minute must be in 0..59"
    else if 60 ≤ s then some "second must be in 0..59"
    else none

/-- What is wrong with a date, a time of day and an offset, if there are none such. -/
def problem? (t : Timestamp) : Option String :=
  let offset := if t.offset.1 * 60 + t.offset.2 < 24 * 60 then none
    else some "offset must be less than a day"
  ((dateProblem? t).or (t.time.bind timeProblem?)).or offset

example : (ofText? "2001-12-14t21:59:43.10-05:00".toList).map (·.offset) = some (5, 0) := by
  decide +kernel
example : (ofText? "2001-02-29".toList).bind problem? =
    some "day is out of range for month" := by decide +kernel

end Timestamp

end Chip8.Yaml
