/-
  Chip8/Run.lean
  ==============
  **Headless runs** — a number of cycles, each one step attempt, without a
  screen or keys.  A cycle in which the machine waits for a key still counts, so
  a run always ends.

  The timers count down with every completed instruction, or else once at the
  start of every frame of a number of cycles.
-/
import Chip8.Trace

namespace Chip8

/-- When the timers count down. -/
inductive TimerMode where
  /-- With every completed instruction. -/
  | perInstruction
  /-- At the start of every frame of so many cycles. -/
  | perFrame (cycles : Int)
  deriving DecidableEq, Repr

namespace TimerMode

/-- The name of the mode in which the timers follow instructions. -/
def instructionName : String := "cycle"

/-- The mode of a name; every other name means frames. -/
def ofName (name : String) (cyclesPerFrame : Int) : TimerMode :=
  if name = instructionName then perInstruction else perFrame cyclesPerFrame

/-- Steps let the timers count down. -/
def decays : TimerMode → Bool
  | perInstruction => true
  | perFrame _ => false

/-- What happens to the machine at the start of a cycle: at a frame boundary the
    timers count down.  Frames of no cycles have no boundaries. -/
def atCycle (mode : TimerMode) (cycle : Nat) (m : Machine) : Except Error Machine :=
  match mode with
  | perInstruction => .ok m
  | perFrame c =>
    if c = 0 then .error .emptyFrame
    else .ok (if (cycle : Int) % c = 0 then m.tick else m)

end TimerMode

/-- How a run went: what was traced, in order, and how it ended. -/
structure Run where
  log : List Trace
  /-- The last machine and the number of completed instructions. -/
  result : Except Error (Machine × Nat)

namespace Run

/-- Run the remaining cycles from cycle number `cycle` on; `log` holds the
    traces so far, newest first. -/
def cyclesFrom (mode : TimerMode) (traced : Bool) :
    (remaining cycle completed : Nat) → (log : List Trace) → Machine → Run
  | 0, _, completed, log, m => ⟨log.reverse, .ok (m, completed)⟩
  | remaining + 1, cycle, completed, log, m =>
    match mode.atCycle cycle m with
    | .error e => ⟨log.reverse, .error e⟩
    | .ok m =>
      let log := if traced then Trace.ofMachine m :: log else log
      match m.step mode.decays with
      | .error e => ⟨log.reverse, .error e⟩
      | .ok a =>
        cyclesFrom mode traced remaining (cycle + 1) (completed + a.completed.toNat) log a.machine

/-- Numbers of cycles from here on cannot be counted: they take more than 63 bits. -/
def countLimit : Int := 0x8000000000000000

/-- Run a number of cycles; a negative number is none. -/
def cycles (mode : TimerMode) (traced : Bool) (count : Int) (m : Machine) : Run :=
  if countLimit ≤ count then ⟨[], .error .countOutOfRange⟩
  else cyclesFrom mode traced count.toNat 0 0 [] m

end Run

end Chip8
