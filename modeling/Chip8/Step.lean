/-
  Chip8/Step.lean
  ===============
  **One step** — fetch the word at the program counter, refuse it if it cannot
  run, otherwise run it and let the timers count down if asked to.

  Every refusal happens before anything changes, so the machine that a failed
  step was given still points at the word that failed.  A machine that waits
  for a key neither fails nor completes: it stays as it is.
-/
import Chip8.Execute

namespace Chip8

/-- What a step that did not fail made of the machine. -/
structure Attempt where
  machine : Machine
  /-- The instruction ran; otherwise the machine is waiting for a key. -/
  completed : Bool
  deriving DecidableEq

namespace Machine

/-- The word whose two bytes stand at an address and after it, the first one
    being the high half. -/
def wordAt (m : Machine) (a b : Nat) : Nat := 256 * (m.byteAt a).toNat + (m.byteAt b).toNat

/-- The word at the program counter; the counter wraps between its two bytes. -/
def peek (m : Machine) : Nat := m.wordAt m.pc.toNat (m.pc + 1).toNat

/-- Move the program counter past a word. -/
def advance (m : Machine) : Machine := { m with pc := m.pc + 2 }

/-- The machine waits for a key: the word asks for one and none is held. -/
def waitsOn (m : Machine) (word : Int) : Bool :=
  let o := Opcode.ofWord word
  o.family == 0xF && o.nn == 0x0A && !m.keypad.anyDown

/-- Refuse a word that cannot run in this machine. -/
def check (m : Machine) (word : Int) : Except Error Unit :=
  if !Opcode.known word then .error (.unknownOpcode word m.pc.toNat)
  else if word = 0x00EE ∧ m.stack.depth = 0 then .error (.stackUnderflow m.pc.toNat)
  else if (Opcode.ofWord word).family = 0x2 ∧
      (CallStack.capacity : Int) ≤ m.stack.depth.toInt then
    .error (.stackOverflow m.pc.toNat)
  else .ok ()

/-- The timers count down if `decay` says so. -/
def tickIf (m : Machine) (decay : Bool) : Machine := if decay then m.tick else m

/-- Fetch, check and run one instruction. -/
def step (m : Machine) (decay : Bool) : Except Error Attempt :=
  if Memory.size ≤ m.pc.toNat + 1 then .error (.fetchOutOfMemory m.pc.toNat)
  else
    let word : Int := m.peek
    match m.check word with
    | .error e => .error e
    | .ok () =>
      if m.waitsOn word then .ok ⟨m, false⟩
      else .ok ⟨(m.advance.execute word).tickIf decay, true⟩

end Machine

end Chip8
