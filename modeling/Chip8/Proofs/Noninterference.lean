/-
  Chip8/Proofs/Noninterference.lean
  =================================
  **No hidden flow of information** — a part at the rim of the machine is seen by its readers
  and by nothing else: until one of them is fetched, two machines that differ in that part
  alone do the same, however many steps they make.

  `steps` is what a machine does, step by step; `SameUntilRead` relates two of these lists up
  to the first reader, at which both machines have come when one has.  One step is
  `AgreeOff.step`; the rest is induction over the steps.
-/
import Chip8.Proofs.Hiding

namespace Chip8.Machine

variable {hidden : Part} {m m' : Machine}

/-- What a machine does step by step, with a flag for each that asks for the timers: the machine
    that a step is given, and its outcome.  An error is the last outcome. -/
def steps : List Bool → Machine → List (Machine × Except Error Attempt)
  | [], _ => []
  | decay :: decays, m =>
    (m, m.step decay) :: match m.step decay with
      | .error _ => []
      | .ok a => steps decays a.machine

/-- Up to the first step that fetches a reader of the hidden part, two lists of steps have the
    same outcomes in machines that agree off that part; and if there is such a step, it is the
    same one in both. -/
inductive SameUntilRead (hidden : Part) :
    List (Machine × Except Error Attempt) → List (Machine × Except Error Attempt) → Prop where
  | nil : SameUntilRead hidden [] []
  | read {x x' : Machine × Except Error Attempt} (hagree : AgreeOff [hidden] x.1 x'.1)
    (hread : x.1.FetchesReader hidden) (hread' : x'.1.FetchesReader hidden)
    (xs xs' : List (Machine × Except Error Attempt)) :
    SameUntilRead hidden (x :: xs) (x' :: xs')
  | step {x x' : Machine × Except Error Attempt} (hagree : AgreeOff [hidden] x.1 x'.1)
    (hread : ¬ x.1.FetchesReader hidden) (hread' : ¬ x'.1.FetchesReader hidden)
    (hsame : SameOutcome [hidden] x.2 x'.2) {xs xs' : List (Machine × Except Error Attempt)}
    (hrest : SameUntilRead hidden xs xs') :
    SameUntilRead hidden (x :: xs) (x' :: xs')

section Rim

variable (hrim : hidden.IsRim)
include hrim

theorem AgreeOff.fetchesReader_iff (h : AgreeOff [hidden] m m') :
    m'.FetchesReader hidden ↔ m.FetchesReader hidden := by
  have hrims : ∀ p ∈ [hidden], p.IsRim := by
    intro p hp
    rwa [List.mem_singleton.1 hp]
  rw [FetchesReader, FetchesReader, h.pc_eq hrims, h.peek_eq hrims]

/-- **No hidden flow of information.**  Two machines that agree in all parts but one at the rim
    have the same outcomes, completions and errors alike, and go on to agree in all parts but
    that one, until one of the readers of the part is fetched. -/
theorem steps_same_until_read (decays : List Bool) (h : AgreeOff [hidden] m m') :
    SameUntilRead hidden (m.steps decays) (m'.steps decays) := by
  have hrims : ∀ p ∈ [hidden], p.IsRim := by
    intro p hp
    rwa [List.mem_singleton.1 hp]
  induction decays generalizing m m' with
  | nil => exact .nil
  | cons decay decays ih =>
    by_cases hread : m.FetchesReader hidden
    · exact .read h hread ((h.fetchesReader_iff hrim).2 hread) _ _
    have hread' : ¬ m'.FetchesReader hidden := by
      rwa [h.fetchesReader_iff hrim]
    have hsame : SameOutcome [hidden] (m.step decay) (m'.step decay) := by
      apply h.step hrims
      intro p hp
      rwa [List.mem_singleton.1 hp]
    refine .step h hread hread' hsame ?_
    generalize m.step decay = outcome, m'.step decay = outcome' at hsame
    cases hsame with
    | error e => exact .nil
    | ok hagree completed => exact ih hagree

end Rim

/-- The word 0xE000 names no instruction, so it shows nothing of the keypad: with a key down and
    with none it is refused, after a load that completes. -/
theorem steps_same_until_read_unknown :
    let m : Machine :=
      { initial ⟨0, 0⟩ with
        memory := Cells.writeAll Memory.withFont 0x200 [0x6A, 0x05, 0xE0, 0x00] }
    let m' : Machine := { m with keypad := Vector.replicate 16 true }
    AgreeOff [.keypad] m m' ∧
      SameUntilRead .keypad (m.steps [true, false, true]) (m'.steps [true, false, true]) ∧
      (m.steps [true, false, true]).map (fun x => (x.1.peek, x.2.isOk)) =
        [(0x6A05, true), (0xE000, false)] := by
  intro m m'
  have hrim : Part.keypad.IsRim := trivial
  have hagree : AgreeOff [.keypad] m m' := by
    intro p hp
    cases p with
    | keypad => exact absurd (List.mem_singleton_self _) hp
    | _ => rfl
  refine ⟨hagree, steps_same_until_read hrim _ hagree, ?_⟩
  decide +kernel

end Chip8.Machine
