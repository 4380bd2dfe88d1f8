/-
  Chip8/Window.lean
  =================
  **Runs in a window** — turns, each of which waits for its time, polls the events that
  have come in, attempts a number of steps and shows the screen if it was drawn on.

  Opening the window, waiting and showing a picture are up to the host, which may
  refuse; how long a wait is, is not told here.  A run ends when a poll asks for it,
  when the limit of cycles is reached, or with an error; a turn of a session that has
  ended changes nothing.  So the run over a script of polls is a fold of turns, closed
  by a poll that asks to quit.
-/
import Chip8.Picture
import Chip8.Settings

namespace Chip8

namespace Window

/-! ### Events -/

/-- What a poll can report. -/
inductive Event where
  /-- The window was closed. -/
  | quit
  | keyDown (key : String)
  | keyUp (key : String)
  /-- Something that means nothing here. -/
  | other
  deriving DecidableEq, Repr

/-- The events of one poll, in the order in which they came in. -/
abbrev Poll := List Event

namespace Event

/-- The key that ends a run. -/
def escape : String := "escape"

/-- An event as text: a key after a plus sign went down, after a minus sign up. -/
def ofText (s : String) : Event :=
  match s.toList with
  | '+' :: key => keyDown (String.ofList key)
  | '-' :: key => keyUp (String.ofList key)
  | key => if String.ofList key = "quit" then quit else other

/-- The event asks to end the run. -/
def stops : Event → Bool
  | quit => true
  | keyDown key => key == escape
  | _ => false

/-- The key of the keypad that an event is about, and whether it is down now. -/
def key? : Event → Option (Nat × Bool)
  | keyDown key => (Keypad.ofKeyboard? key).map fun k => (k, true)
  | keyUp key => (Keypad.ofKeyboard? key).map fun k => (k, false)
  | _ => none

/-- Hold or release the key that an event is about. -/
def apply (m : Machine) (e : Event) : Except Error Machine :=
  match e.key? with
  | some (k, down) => m.setKey k down
  | none => .ok m

end Event

/-! ### Windows and pictures -/

/-- Width and height of the window, and of a picture in it, in pixels. -/
def size (c : Settings) : Int × Int := (Screen.width * c.scale, Screen.height * c.scale)

/-- Why a window cannot be opened. -/
def refusal? (host : Host) (c : Settings) : Option Error :=
  (host.windowRefusal? (size c).1 (size c).2).map .refused

/-- The picture of a screen that can be put into the window. -/
def picture (host : Host) (c : Settings) (colours : Scheme) (screen : Screen) :
    Except Error Picture :=
  match Picture.render host screen.toList c.scale colours.on colours.off with
  | .error e => .error e
  | .ok picture =>
    match host.surfaceRefusal? (size c).1 (size c).2 with
    | some r => .error (.refused r)
    | none => .ok picture

/-! ### Sessions -/

/-- A picture and the poll after which it was shown, counted from one. -/
structure Frame where
  poll : Nat
  picture : Picture
  deriving DecidableEq, Repr

/-- Whether a session goes on. -/
inductive Status where
  | running
  | stopped
  | failed (e : Error)
  deriving DecidableEq, Repr

/-- A run in a window so far. -/
structure Session where
  machine : Machine
  status : Status := .running
  /-- Steps attempted without an error. -/
  cycles : Nat := 0
  polls : Nat := 0
  /-- The pictures shown, newest first. -/
  frames : List Frame := []
  /-- The steps traced, newest first. -/
  log : List Trace := []

namespace Session

/-- End a session with an error. -/
def fail (s : Session) (e : Error) : Session := { s with status := .failed e }

/-- Wait for the time of the next turn. -/
def pace (host : Host) (c : Settings) (s : Session) : Session :=
  match host.paceRefusal? c.fps with
  | some r => s.fail (.refused r)
  | none => s

/-- Poll events: the keypad follows all of them, also after one that ends the run. -/
def poll (s : Session) (events : Poll) : Session :=
  let s := { s with polls := s.polls + 1 }
  match events.foldlM Event.apply s.machine with
  | .error e => s.fail e
  | .ok m =>
    { s with machine := m, status := if events.any Event.stops then .stopped else .running }

/-- In frame mode, let the timers count down. -/
def beat (c : Settings) (s : Session) : Session :=
  { s with machine := s.machine.tickIf (!c.mode.decays) }

/-- Trace what is about to be attempted, if asked to. -/
def note (c : Settings) (s : Session) : Session :=
  if c.trace then { s with log := Trace.ofMachine s.machine :: s.log } else s

/-- The number of cycles has reached the limit; zero is no limit. -/
def limitReached (c : Settings) (cycles : Nat) : Bool :=
  c.maxCycles ≠ 0 ∧ c.maxCycles ≤ cycles

/-- Attempt up to `n` steps: fewer if one fails, reaches the limit or waits for a
    key. -/
def burst (c : Settings) : (n : Nat) → Session → Session
  | 0, s => s
  | n + 1, s =>
    let s := s.note c
    match s.machine.step c.mode.decays with
    | .error e => s.fail e
    | .ok a =>
      let s := { s with machine := a.machine, cycles := s.cycles + 1 }
      if limitReached c s.cycles then { s with status := .stopped }
      else if a.completed then burst c n s
      else s

/-- Show the screen if it was drawn on. -/
def present (host : Host) (c : Settings) (colours : Scheme) (s : Session) : Session :=
  let (m, screen) := s.machine.takeFrame
  let s := { s with machine := m }
  match screen with
  | none => s
  | some screen =>
    match picture host c colours screen with
    | .error e => s.fail e
    | .ok picture => { s with frames := ⟨s.polls, picture⟩ :: s.frames }

/-- What a turn does after a poll that did not end the run. -/
def play (host : Host) (c : Settings) (colours : Scheme) (s : Session) : Session :=
  let s := (s.beat c).burst c c.cyclesPerFrame.toNat
  match s.status with
  | .failed _ => s
  | _ => s.present host c colours

/-- One turn. -/
def turn (host : Host) (c : Settings) (colours : Scheme) (s : Session) (events : Poll) :
    Session :=
  if s.status = .running then
    let s := s.pace host c
    if s.status = .running then
      let s := s.poll events
      if s.status = .running then s.play host c colours else s
    else s
  else s

/-- How a session ended: the machine and the number of cycles, or an error. -/
def result (s : Session) : Except Error (Machine × Nat) :=
  match s.status with
  | .failed e => .error e
  | _ => .ok (s.machine, s.cycles)

end Session

/-! ### Runs -/

/-- The title of the window. -/
def title : String := "CHIP-8"

/-- Run a machine in a window over a script of polls; after the script, a poll asks
    to quit. -/
def run (host : Host) (c : Settings) (script : List Poll) (m : Machine) : Session :=
  match refusal? host c with
  | some e => ({ machine := m } : Session).fail e
  | none =>
    match Picture.scheme c.colorScheme with
    | .error e => ({ machine := m } : Session).fail e
    | .ok colours =>
      (script ++ [[Event.quit]]).foldl (Session.turn host c colours) { machine := m }

end Window

end Chip8
