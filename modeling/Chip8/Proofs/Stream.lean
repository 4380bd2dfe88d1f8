/-
  Chip8/Proofs/Stream.lean
  ========================
  **The random stream is a function of the first key** — whatever a host does to a machine and
  whatever the machine runs, its key has moved on once for every random byte that was drawn,
  and byte number `j` is the byte of the `j`-fold next key.

  Nothing but a word of family C writes the key (`rng_ran_of_not_rolls`), so the draws of a sequence
  of operations are read off its completions (`rolls`), and both the last key and the key
  that each draw was given follow by induction over the operations.
-/
import Mathlib.Logic.Function.Iterate
import Chip8.Proofs.Hiding
import Chip8.Proofs.Operations

namespace Chip8

namespace Machine

variable {m x : Machine} {op : Operation} {ops : List Operation} {decay : Bool} {j : Nat}

/-! ### One draw -/

/-- The next word draws a random byte. -/
def Rolls (m : Machine) : Prop := (Opcode.ofWord m.peek).family = 0xC

instance (m : Machine) : Decidable m.Rolls := inferInstanceAs (Decidable (_ = _))

theorem execute_peek_of_rolls (h : m.Rolls) (k : Machine) :
    k.execute m.peek =
      { k.setReg (Opcode.regX m.peek)
          (k.rng.byte &&& UInt8.ofNat (Opcode.ofWord m.peek).nn) with
        rng := k.rng.next } := by
  rw [execute, Instruction.ofWord_of_random h]
  rfl

theorem rng_ran_of_rolls (h : m.Rolls) (decay : Bool) : (m.ran decay).rng = m.rng.next := by
  rw [ran, rng_tickIf, execute_peek_of_rolls h]
  rfl

theorem reg_ran_of_rolls (h : m.Rolls) (decay : Bool) :
    (m.ran decay).reg (Opcode.regX m.peek) =
      m.rng.byte &&& UInt8.ofNat (Opcode.ofWord m.peek).nn := by
  rw [ran, reg, regs_tickIf, execute_peek_of_rolls h]
  exact reg_setReg_self m.advance _ _

/-- Only a draw moves the key on. -/
theorem rng_ran_of_not_rolls (h : ¬ m.Rolls) (decay : Bool) : (m.ran decay).rng = m.rng := by
  have hsame : Part.rng.Agrees (m.tickIf decay) (m.ran decay) := ran_agrees h
  exact Eq.trans hsame (rng_tickIf m decay)

/-! ### The draws of a sequence of operations -/

/-- The machines in which a step completed a draw, in order. -/
def rolls (m : Machine) (ops : List Operation) : List Machine :=
  (m.completions ops).filter fun x => x.Rolls

theorem rolls_cons_of_rolls (hdone : m.completes op = true) (h : m.Rolls) :
    m.rolls (op :: ops) = m :: (m.perform op).rolls ops := by
  rw [rolls, completions, if_pos hdone, List.filter_cons_of_pos (by simpa using h)]
  rfl

theorem rolls_cons_of_not_rolls (h : ¬ (m.completes op = true ∧ m.Rolls)) :
    m.rolls (op :: ops) = (m.perform op).rolls ops := by
  rw [rolls, completions]
  split
  · next hdone =>
    rw [List.filter_cons_of_neg (by simpa using fun hrolls => h ⟨hdone, hrolls⟩)]
    rfl
  · rfl

theorem rng_perform_of_rolls (hdone : m.completes op = true) (h : m.Rolls) :
    (m.perform op).rng = m.rng.next := by
  obtain ⟨decay, rfl, -, hperform⟩ := perform_of_completes hdone
  rw [hperform, rng_ran_of_rolls h]

theorem rng_perform_of_not_rolls (h : ¬ (m.completes op = true ∧ m.Rolls)) :
    (m.perform op).rng = m.rng := by
  cases hdone : m.completes op with
  | true =>
    obtain ⟨decay, rfl, -, hperform⟩ := perform_of_completes hdone
    rw [hperform]
    apply rng_ran_of_not_rolls
    intro hrolls
    exact h ⟨hdone, hrolls⟩
  | false =>
    apply perform_agrees (p := .rng) hdone
    cases op <;> simp [Operation.Writes]

/-- **The key moves on once for every draw.** -/
theorem rng_performAll (m : Machine) (ops : List Operation) :
    (m.performAll ops).rng = Random.Key.next^[(m.rolls ops).length] m.rng := by
  induction ops generalizing m with
  | nil => rfl
  | cons op ops ih =>
    rw [performAll_cons, ih]
    by_cases h : m.completes op = true ∧ m.Rolls
    · rw [rolls_cons_of_rolls h.1 h.2, rng_perform_of_rolls h.1 h.2, List.length_cons,
        Function.iterate_succ_apply]
    · rw [rolls_cons_of_not_rolls h, rng_perform_of_not_rolls h]

/-- The machine of draw `j` has the `j`-fold next key. -/
theorem of_getElem?_rolls (h : (m.rolls ops)[j]? = some x) :
    x.Rolls ∧ x.rng = Random.Key.next^[j] m.rng ∧
      ∃ decay, x.step decay = .ok ⟨x.ran decay, true⟩ := by
  induction ops generalizing m j with
  | nil => cases h
  | cons op ops ih =>
    by_cases hroll : m.completes op = true ∧ m.Rolls
    · obtain ⟨hdone, hrolls⟩ := hroll
      rw [rolls_cons_of_rolls hdone hrolls] at h
      cases j with
      | zero =>
        cases h
        obtain ⟨decay, -, hstep, -⟩ := perform_of_completes hdone
        exact ⟨hrolls, rfl, decay, hstep⟩
      | succ j =>
        obtain ⟨hx, hrng, hstep⟩ := ih h
        rw [rng_perform_of_rolls hdone hrolls] at hrng
        exact ⟨hx, hrng, hstep⟩
    · rw [rolls_cons_of_not_rolls hroll] at h
      obtain ⟨hx, hrng, hstep⟩ := ih h
      rw [rng_perform_of_not_rolls hroll] at hrng
      exact ⟨hx, hrng, hstep⟩

theorem and_and_not (a b : UInt8) : (a &&& b) &&& ~~~b = 0 := by
  rw [UInt8.and_assoc, UInt8.and_not_self, UInt8.and_zero]

/-- **The random stream depends on the first key and on the number of draws only.**  After any
    sequence of operations the key has moved on once for every completed draw; and draw number `j`,
    whatever its register and mask are and whatever ran before it, stores the byte of the `j`-fold
    next key under its mask, so no bit outside the mask. -/
theorem random_stream (m : Machine) (ops : List Operation) :
    (m.performAll ops).rng = Random.Key.next^[(m.rolls ops).length] m.rng ∧
    ∀ j x, (m.rolls ops)[j]? = some x →
      (Opcode.ofWord x.peek).family = 0xC ∧ x ∈ m.completions ops ∧
      ∀ decay,
        let vx := (x.ran decay).reg (Opcode.regX x.peek)
        let nn := UInt8.ofNat (Opcode.ofWord x.peek).nn
        x.step decay = .ok ⟨x.ran decay, true⟩ ∧ vx = (Random.Key.next^[j] m.rng).byte &&& nn ∧
          vx &&& ~~~nn = 0 := by
  refine ⟨rng_performAll m ops, ?_⟩
  intro j x hx
  obtain ⟨hrolls, hrng, first, hstep⟩ := of_getElem?_rolls hx
  refine ⟨hrolls, (List.mem_filter.1 (List.mem_of_getElem? hx)).1, ?_⟩
  intro decay
  obtain ⟨hpc, hrun, hwaits, -⟩ := step_eq_completed_iff.1 hstep
  have hvx := reg_ran_of_rolls hrolls decay
  refine ⟨step_eq_completed_iff.2 ⟨hpc, hrun, hwaits, rfl⟩, ?_, ?_⟩
  · rw [hvx, hrng]
  · rw [hvx, and_and_not]

/-- Three draws, the second of which has an empty mask: with a timer, a key and another
    instruction in between, the third stores the byte of the key moved on twice. -/
theorem random_stream_third :
    let ops : List Operation :=
      [.load [0xC3, 0x0F, 0xC4, 0x00, 0x63, 0x01, 0xC5, 0xF0], .step true, .tick, .step false,
        .setKey 3 true, .step true, .takeFrame, .step true]
    let m := (initial ⟨0, 7⟩).performAll ops
    ∃ x, ((initial ⟨0, 7⟩).rolls ops)[2]? = some x ∧
      (x.ran true).reg 5 = (Random.Key.next^[2] ⟨0, 7⟩).byte &&& 0xF0 ∧
      m.reg 5 = (x.ran true).reg 5 ∧
      m.rng = Random.Key.next^[3] ⟨0, 7⟩ := by
  intro ops m
  have hx : ((initial ⟨0, 7⟩).rolls ops)[2]?.map (fun x => (x.peek, (x.ran true).reg 5)) =
      some (0xC5F0, m.reg 5) ∧ ((initial ⟨0, 7⟩).rolls ops).length = 3 := by
    decide +kernel
  obtain ⟨hthird, hlength⟩ := hx
  obtain ⟨x, hx, hlast⟩ := Option.map_eq_some_iff.1 hthird
  obtain ⟨hpeek, hreg⟩ := Prod.mk.inj hlast
  obtain ⟨hrng, hdraws⟩ := random_stream (initial ⟨0, 7⟩) ops
  obtain ⟨-, hvalue, -⟩ := (hdraws 2 x hx).2.2 true
  rw [hpeek] at hvalue
  rw [hlength] at hrng
  exact ⟨x, hx, hvalue, hreg.symm, hrng⟩

end Machine

end Chip8
