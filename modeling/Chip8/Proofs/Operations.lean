/-
  Chip8/Proofs/Operations.lean
  ============================
  **What a host does to a machine** — the operations a host has, and finite
  sequences of them from any machine.

  An operation that is refused leaves the machine as it is, so a sequence goes on
  after an error: whatever holds after every sequence holds in every state that a
  host can bring about.  Beside the last machine a sequence has its completions,
  the machines in which a step completed, from which histories are read off.
-/
import Chip8.Program
import Chip8.Proofs.Footprint

namespace Chip8

/-- What a host can do to a machine. -/
inductive Operation where
  | load (image : List UInt8)
  | step (decay : Bool)
  | tick
  | setKey (key : Int) (down : Bool)
  | takeFrame
  deriving DecidableEq, Repr

namespace Operation

/-- Do an operation. -/
def run (m : Machine) : Operation → Except Error Machine
  | load image => m.loadProgram image
  | step decay => (m.step decay).map Attempt.machine
  | tick => .ok m.tick
  | setKey key down => m.setKey key down
  | takeFrame => .ok m.takeFrame.1

/-- The parts that a host writes itself; a step is the machine's own doing. -/
def Writes (p : Part) : Operation → Prop
  | load image =>
    ∃ a : Fin 4096, p = .byte a ∧ Memory.programStart ≤ a ∧ a < Memory.programStart + image.length
  | step _ => False
  | tick => p = .delay ∨ p = .sound
  | setKey .. => p = .keypad
  | takeFrame => p = .dirty

end Operation

namespace Machine

/-- The machine after an operation, done or refused. -/
def perform (m : Machine) (op : Operation) : Machine :=
  match op.run m with
  | .ok m' => m'
  | .error _ => m

/-- The machine after a sequence of operations. -/
def performAll (m : Machine) (ops : List Operation) : Machine := ops.foldl perform m

/-- The operation is a step that completes. -/
def completes (m : Machine) : Operation → Bool
  | .step decay => match m.step decay with
    | .ok a => a.completed
    | .error _ => false
  | _ => false

/-- The machines in which the steps of a sequence completed, in order. -/
def completions : Machine → List Operation → List Machine
  | _, [] => []
  | m, op :: ops =>
    if m.completes op then m :: (m.perform op).completions ops else (m.perform op).completions ops

@[simp] theorem performAll_nil (m : Machine) : m.performAll [] = m := rfl

@[simp] theorem performAll_cons (m : Machine) (op : Operation) (ops : List Operation) :
    m.performAll (op :: ops) = (m.perform op).performAll ops := rfl

/-- A step that completes has run its word. -/
theorem perform_of_completes {m : Machine} {op : Operation} (h : m.completes op = true) :
    ∃ decay, op = .step decay ∧ m.step decay = .ok ⟨m.ran decay, true⟩ ∧
      m.perform op = m.ran decay := by
  cases op with
  | step decay =>
    refine ⟨decay, rfl, ?_⟩
    have hstep := m.step_stepped decay
    simp only [completes] at h
    simp only [perform, Operation.run]
    generalize m.step decay = outcome at h hstep
    cases hstep with
    | outside | refused | waiting => cases h
    | running => exact ⟨rfl, rfl⟩
  | load | tick | setKey | takeFrame => cases h

/-- Without a step that completes, an operation leaves everything alone that the
    host does not write itself. -/
theorem perform_agrees {m : Machine} {op : Operation} {p : Part} (h : m.completes op = false)
    (hp : ¬ op.Writes p) : p.Agrees m (m.perform op) := by
  cases op with
  | load image =>
    simp only [perform, Operation.run, loadProgram]
    split
    · next hrun =>
      split at hrun <;> cases hrun
      cases p with
      | byte a =>
        exact Cells.getElem_writeAll_of_not_mem _ fun ha => hp ⟨a, rfl, ha⟩
      | _ => rfl
    · exact Part.Agrees.refl m p
  | step decay =>
    have hstep := m.step_stepped decay
    simp only [completes] at h
    simp only [perform, Operation.run]
    generalize m.step decay = outcome at h hstep
    cases hstep with
    | outside | refused | waiting => exact Part.Agrees.refl m p
    | running => cases h
  | tick =>
    cases p with
    | delay => exact absurd (Or.inl rfl) hp
    | sound => exact absurd (Or.inr rfl) hp
    | _ => rfl
  | setKey key down =>
    simp only [perform, Operation.run, Machine.setKey]
    cases m.keypad.set? key down with
    | error e => exact Part.Agrees.refl m p
    | ok keypad =>
      cases p with
      | keypad => exact absurd rfl hp
      | _ => rfl
  | takeFrame =>
    simp only [perform, Operation.run, Machine.takeFrame]
    split
    · cases p with
      | dirty => exact absurd rfl hp
      | _ => rfl
    · exact Part.Agrees.refl m p

end Machine

end Chip8
