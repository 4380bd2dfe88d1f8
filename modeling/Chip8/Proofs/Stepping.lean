/-
  Chip8/Proofs/Stepping.lean
  ==========================
  **The ways a step can go** — a step fetches outside memory, is refused, waits
  for a key, or runs its word; `Stepped` has one constructor for each, with
  everything that is known in that case.

  Later proofs take a step apart by cases on `step_stepped` and do not open `step`
  or `check` again.
-/
import Chip8.Step

namespace Chip8.Machine

variable {m m' : Machine} {decay : Bool}

/-! ### The check -/

/-- The word names an instruction, and the call stack has room for it or an entry
    for it where it needs one. -/
structure Runnable (m : Machine) (word : Int) : Prop where
  known : Opcode.known word = true
  hasCall : word = 0x00EE → m.stack.depth ≠ 0
  hasRoom : (Opcode.ofWord word).family = 0x2 → m.stack.depth.toInt < CallStack.capacity

theorem check_eq_ok_iff (word : Int) : m.check word = .ok () ↔ m.Runnable word := by
  unfold check
  constructor
  · intro h
    split at h
    · cases h
    split at h
    · cases h
    split at h
    · cases h
    next hknown hcall hroom =>
      refine ⟨by simpa using hknown, fun hw hd => hcall ⟨hw, hd⟩, fun hf => ?_⟩
      exact Int.not_le.1 fun hle => hroom ⟨hf, hle⟩
  · intro h
    rw [if_neg (by simp [h.known]), if_neg fun hw => h.hasCall hw.1 hw.2,
      if_neg fun hf => Int.not_le.2 (h.hasRoom hf.1) hf.2]

theorem known_of_call {word : Int} (h : (Opcode.ofWord word).family = 0x2) :
    Opcode.known word = true := by
  simp only [Opcode.known, h]

/-- The errors with which a check fails.  No two of the conditions hold of one word. -/
theorem check_eq_error_iff {word : Int} {e : Error} :
    m.check word = .error e ↔
      Opcode.known word = false ∧ e = .unknownOpcode word m.pc.toNat ∨
      word = 0x00EE ∧ m.stack.depth = 0 ∧ e = .stackUnderflow m.pc.toNat ∨
      (Opcode.ofWord word).family = 0x2 ∧ (CallStack.capacity : Int) ≤ m.stack.depth.toInt ∧
        e = .stackOverflow m.pc.toNat := by
  unfold check
  constructor
  · intro h
    split at h
    · next hknown => exact Or.inl ⟨by simpa using hknown, (Except.error.inj h).symm⟩
    split at h
    · next hret => exact Or.inr (Or.inl ⟨hret.1, hret.2, (Except.error.inj h).symm⟩)
    split at h
    · next hcall => exact Or.inr (Or.inr ⟨hcall.1, hcall.2, (Except.error.inj h).symm⟩)
    · cases h
  · rintro (⟨hknown, rfl⟩ | ⟨rfl, hdepth, rfl⟩ | ⟨hcall, hfull, rfl⟩)
    · rw [if_pos (by simp [hknown])]
    · rw [if_neg (by decide), if_pos ⟨rfl, hdepth⟩]
    · have hret : word ≠ 0x00EE := by
        rintro rfl
        exact absurd hcall (by decide)
      rw [if_neg (by simp [known_of_call hcall]), if_neg fun hw => hret hw.1,
        if_pos ⟨hcall, hfull⟩]

/-! ### The timers -/

@[simp] theorem pc_tickIf (m : Machine) (decay : Bool) : (m.tickIf decay).pc = m.pc := by
  cases decay <;> rfl

@[simp] theorem stack_tickIf (m : Machine) (decay : Bool) : (m.tickIf decay).stack = m.stack := by
  cases decay <;> rfl

@[simp] theorem screen_tickIf (m : Machine) (decay : Bool) :
    (m.tickIf decay).screen = m.screen := by
  cases decay <;> rfl

@[simp] theorem dirty_tickIf (m : Machine) (decay : Bool) : (m.tickIf decay).dirty = m.dirty := by
  cases decay <;> rfl

@[simp] theorem regs_tickIf (m : Machine) (decay : Bool) : (m.tickIf decay).regs = m.regs := by
  cases decay <;> rfl

@[simp] theorem keypad_tickIf (m : Machine) (decay : Bool) :
    (m.tickIf decay).keypad = m.keypad := by
  cases decay <;> rfl

@[simp] theorem rng_tickIf (m : Machine) (decay : Bool) : (m.tickIf decay).rng = m.rng := by
  cases decay <;> rfl

/-! ### The step -/

/-- The machine after the word at the program counter has run. -/
def ran (m : Machine) (decay : Bool) : Machine := (m.advance.execute m.peek).tickIf decay

/-- The outcomes of a step, each with the condition under which it happens. -/
inductive Stepped (m : Machine) (decay : Bool) : Except Error Attempt → Prop where
  /-- The word does not lie wholly inside memory. -/
  | outside (hpc : Memory.size ≤ m.pc.toNat + 1) :
    Stepped m decay (.error (.fetchOutOfMemory m.pc.toNat))
  /-- The word cannot run. -/
  | refused {e : Error} (hpc : m.pc.toNat + 1 < Memory.size) (hcheck : m.check m.peek = .error e) :
    Stepped m decay (.error e)
  /-- The word asks for a key and none is held. -/
  | waiting (hpc : m.pc.toNat + 1 < Memory.size) (hrun : m.Runnable m.peek)
    (hwaits : m.waitsOn m.peek = true) : Stepped m decay (.ok ⟨m, false⟩)
  /-- The word runs. -/
  | running (hpc : m.pc.toNat + 1 < Memory.size) (hrun : m.Runnable m.peek)
    (hwaits : m.waitsOn m.peek = false) : Stepped m decay (.ok ⟨m.ran decay, true⟩)

theorem step_stepped (m : Machine) (decay : Bool) : Stepped m decay (m.step decay) := by
  unfold step
  split
  · next hpc => exact .outside hpc
  next hpc =>
  have hpc : m.pc.toNat + 1 < Memory.size := Nat.lt_of_not_le hpc
  dsimp only
  split
  · next e hcheck => exact .refused hpc hcheck
  next hcheck =>
  have hrun : m.Runnable m.peek := (check_eq_ok_iff _).1 hcheck
  split
  · next hwaits => exact .waiting hpc hrun hwaits
  · next hwaits => exact .running hpc hrun (Bool.eq_false_iff.2 hwaits)

/-- The outcome of a step is the one whose condition holds. -/
theorem Stepped.eq {outcome : Except Error Attempt} (h : Stepped m decay outcome) :
    m.step decay = outcome := by
  unfold step
  cases h with
  | outside hpc => rw [if_pos hpc]
  | refused hpc hcheck =>
    rw [if_neg (Nat.not_le.2 hpc)]
    simp only [hcheck]
  | waiting hpc hrun hwaits =>
    rw [if_neg (Nat.not_le.2 hpc)]
    simp only [(check_eq_ok_iff _).2 hrun, hwaits, if_true]
  | running hpc hrun hwaits =>
    rw [if_neg (Nat.not_le.2 hpc)]
    simp only [(check_eq_ok_iff _).2 hrun, hwaits, Bool.false_eq_true, if_false]
    rfl

/-- A step completes just when its word can run and does not wait. -/
theorem step_eq_completed_iff :
    m.step decay = .ok ⟨m', true⟩ ↔ m.pc.toNat + 1 < Memory.size ∧ m.Runnable m.peek ∧
      m.waitsOn m.peek = false ∧ m' = m.ran decay := by
  have hstep := m.step_stepped decay
  generalize m.step decay = outcome at hstep
  cases hstep with
  | outside hpc => simp [Nat.not_lt.2 hpc]
  | refused hpc hcheck =>
    have : ¬ m.Runnable m.peek := fun hrun => by
      rw [(check_eq_ok_iff _).2 hrun] at hcheck
      cases hcheck
    simp [this]
  | waiting hpc hrun hwaits => simp [hwaits]
  | running hpc hrun hwaits => simp [hpc, hrun, hwaits, eq_comm]

/-- A step inside memory fails just when the check of its word does. -/
theorem step_eq_error_iff (hpc : m.pc.toNat + 1 < Memory.size) {e : Error} :
    m.step decay = .error e ↔ m.check m.peek = .error e := by
  have hstep := m.step_stepped decay
  generalize m.step decay = outcome at hstep
  cases hstep with
  | outside hout => exact absurd hpc (Nat.not_lt.2 hout)
  | refused _ hcheck => simp [hcheck]
  | waiting _ hrun | running _ hrun => simp [(check_eq_ok_iff _).2 hrun]

/-- A step that waits for a key leaves the machine as it is. -/
theorem eq_of_step_eq_waiting (h : m.step decay = .ok ⟨m', false⟩) :
    m' = m ∧ m.waitsOn m.peek = true := by
  have hstep := m.step_stepped decay
  rw [h] at hstep
  cases hstep with
  | waiting hpc hrun hwaits => exact ⟨rfl, hwaits⟩

end Chip8.Machine
