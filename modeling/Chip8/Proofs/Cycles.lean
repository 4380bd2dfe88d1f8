/-
  Chip8/Proofs/Cycles.lean
  ========================
  **What a headless run is made of** — the machine after so many cycles, and the
  machines that the step attempts were given, each by a recursion of its own.

  The loop that runs carries a cycle number, a count and a trace along; here they are
  taken apart (`result_cyclesFrom`), so that an argument about machines need not
  look at counts, and the count is one of the attempts that did not wait.
-/
import Chip8.Run
import Chip8.Proofs.Stepping

namespace Chip8

/-! ### Waiting -/

namespace Machine

/-- A step in this machine waits for a key. -/
def isWaiting (m : Machine) : Bool :=
  match m.step false with
  | .ok a => !a.completed
  | .error _ => false

/-- Whether a step completes does not depend on the timers. -/
theorem completed_eq_not_isWaiting {m : Machine} {decay : Bool} {a : Attempt}
    (h : m.step decay = .ok a) : a.completed = !m.isWaiting := by
  have hstep := m.step_stepped decay
  rw [h] at hstep
  cases hstep with
  | waiting hpc hrun hwaits =>
    simp only [isWaiting, (Stepped.waiting hpc hrun hwaits).eq, Bool.not_false, Bool.not_true]
  | running hpc hrun hwaits =>
    simp only [isWaiting, (Stepped.running hpc hrun hwaits).eq, Bool.not_false, Bool.not_true]

end Machine

/-! ### Frames of cycles -/

namespace TimerMode

/-- Frames have cycles. -/
def Proper : TimerMode → Prop
  | perInstruction => True
  | perFrame c => 1 ≤ c

/-- A cycle at which the timers may count down before the step: the first one of a
    frame.  Without frames it makes no difference. -/
def Begins : TimerMode → Nat → Prop
  | perInstruction, _ => True
  | perFrame c, i => (i : Int) % c = 0

/-- With `k` cycles from cycle `i` on a frame is full. -/
def Fills : TimerMode → (i k : Nat) → Prop
  | perInstruction, _, _ => True
  | perFrame c, i, k => ((i : Int) + k) % c = 0 ∧ (k : Int) ≤ c

variable {mode : TimerMode} {i k : Nat}

theorem atCycle_of_begins (hproper : mode.Proper) (h : mode.Begins i) (m : Machine) :
    mode.atCycle i m = .ok (m.tickIf (!mode.decays)) := by
  cases mode with
  | perInstruction => rfl
  | perFrame c =>
    have hc : c ≠ 0 := Int.ne_of_gt (Int.lt_of_lt_of_le Int.zero_lt_one hproper)
    have hi : (i : Int) % c = 0 := h
    simp only [atCycle, hc, hi, if_false, if_true]
    rfl

/-- Inside a frame nothing happens before a step. -/
theorem atCycle_of_fills (hproper : mode.Proper) (h : mode.Fills i (k + 2)) (m : Machine) :
    mode.atCycle (i + 1) m = .ok m := by
  cases mode with
  | perInstruction => rfl
  | perFrame c =>
    obtain ⟨hfull, hle⟩ := h
    have hc : c ≠ 0 := Int.ne_of_gt (Int.lt_of_lt_of_le Int.zero_lt_one hproper)
    have hinside : ¬ ((i + 1 : Nat) : Int) % c = 0 := by
      intro hzero
      have hsum : ((i : Int) + (k + 2 : Nat)) = ((i + 1 : Nat) : Int) + (k + 1 : Nat) := by omega
      have hdvd : c ∣ ((k + 1 : Nat) : Int) :=
        (Int.dvd_add_right (Int.dvd_of_emod_eq_zero hzero)).1
          (hsum ▸ Int.dvd_of_emod_eq_zero hfull)
      have hbound := Int.le_of_dvd (by omega) hdvd
      omega
    simp only [atCycle, hc, hinside, if_false]

theorem Begins.fills (h : mode.Begins i) (hk : mode = .perFrame k ∨ mode = .perInstruction) :
    mode.Fills i k := by
  rcases hk with rfl | rfl
  · have hi : (i : Int) % (k : Int) = 0 := h
    exact ⟨by rw [Int.add_emod_right, hi], Int.le_refl _⟩
  · trivial

theorem Fills.next (h : mode.Fills i (k + 1)) : mode.Fills (i + 1) k := by
  cases mode with
  | perInstruction => trivial
  | perFrame c =>
    obtain ⟨hfull, hle⟩ := h
    refine ⟨?_, by omega⟩
    rwa [show ((i + 1 : Nat) : Int) + k = (i : Int) + (k + 1 : Nat) by omega]

theorem Fills.begins (h : mode.Fills i 0) : mode.Begins i := by
  cases mode with
  | perInstruction => trivial
  | perFrame c => simpa [Fills, Begins] using h.1

end TimerMode

/-! ### Machines and attempts of a run -/

namespace Run

variable (mode : TimerMode)

/-- The machine after `n` cycles, the first of which is cycle number `i`. -/
def after : (i n : Nat) → Machine → Except Error Machine
  | _, 0, m => .ok m
  | i, n + 1, m =>
    match mode.atCycle i m with
    | .error e => .error e
    | .ok m =>
      match m.step mode.decays with
      | .error e => .error e
      | .ok a => after (i + 1) n a.machine

/-- The machines that the step attempts of `n` cycles are given, in order; the first
    cycle is number `i`, and an error ends the list. -/
def attempts : (i n : Nat) → Machine → List Machine
  | _, 0, _ => []
  | i, n + 1, m =>
    match mode.atCycle i m with
    | .error _ => []
    | .ok m =>
      m :: match m.step mode.decays with
        | .error _ => []
        | .ok a => attempts (i + 1) n a.machine

variable {mode} {i n : Nat} {m m' : Machine}

theorem after_succ {a : Attempt} (hcycle : mode.atCycle i m = .ok m')
    (hstep : m'.step mode.decays = .ok a) :
    after mode i (n + 1) m = after mode (i + 1) n a.machine := by
  simp only [after, hcycle, hstep]

theorem after_succ_of_error {e : Error} (hcycle : mode.atCycle i m = .ok m')
    (hstep : m'.step mode.decays = .error e) : after mode i (n + 1) m = .error e := by
  simp only [after, hcycle, hstep]

theorem attempts_succ {a : Attempt} (hcycle : mode.atCycle i m = .ok m')
    (hstep : m'.step mode.decays = .ok a) :
    attempts mode i (n + 1) m = m' :: attempts mode (i + 1) n a.machine := by
  simp only [attempts, hcycle, hstep]

/-- The result of the loop: its machine, and the count of attempts that did not wait. -/
theorem result_cyclesFrom (traced : Bool) (completed : Nat) (log : List Trace) :
    (cyclesFrom mode traced n i completed log m).result =
      (after mode i n m).map fun m' =>
        (m', completed + (attempts mode i n m).countP fun x => !x.isWaiting) := by
  induction n generalizing i completed log m with
  | zero => rfl
  | succ n ih =>
    simp only [cyclesFrom, after, attempts]
    cases mode.atCycle i m with
    | error e => rfl
    | ok m =>
      simp only
      cases hstep : m.step mode.decays with
      | error e => rfl
      | ok a =>
        simp only [ih, List.countP_cons, Machine.completed_eq_not_isWaiting hstep]
        congr 1
        funext m'
        cases m.isWaiting with
        | true => simp
        | false =>
          simp only [Bool.not_false, Bool.toNat_true, if_true]
          congr 1
          omega

theorem result_cycles {count : Int} (hcount : count < countLimit) (traced : Bool) :
    (cycles mode traced count m).result =
      (after mode 0 count.toNat m).map fun m' =>
        (m', (attempts mode 0 count.toNat m).countP fun x => !x.isWaiting) := by
  rw [cycles, if_neg (Int.not_le.2 hcount), result_cyclesFrom]
  simp only [Nat.zero_add]

/-- How a run ends does not depend on whether it is traced. -/
theorem result_cycles_eq (mode : TimerMode) (traced traced' : Bool) (count : Int) (m : Machine) :
    (cycles mode traced count m).result = (cycles mode traced' count m).result := by
  by_cases hcount : count < countLimit
  · rw [result_cycles hcount, result_cycles hcount]
  · rw [cycles, cycles, if_pos (Int.not_lt.1 hcount), if_pos (Int.not_lt.1 hcount)]

/-! ### Runs that end without an error -/

/-- A run that returns has come to its last machine, and has counted the attempts that did not
    wait. -/
theorem result_cycles_eq_ok {traced : Bool} {k : Nat}
    (h : (cycles mode traced n m).result = .ok (m', k)) :
    (n : Int) < countLimit ∧ after mode 0 n m = .ok m' ∧
      k = (attempts mode 0 n m).countP fun x => !x.isWaiting := by
  have hcount : (n : Int) < countLimit := by
    refine Int.not_le.1 fun hle => ?_
    rw [cycles, if_pos hle] at h
    cases h
  rw [result_cycles hcount, Int.toNat_natCast] at h
  cases hrun : after mode 0 n m with
  | error e =>
    rw [hrun] at h
    cases h
  | ok last =>
    rw [hrun] at h
    cases h
    exact ⟨hcount, rfl, rfl⟩

theorem exists_step_of_mem_attempts (h : after mode i n m = .ok m') {x : Machine}
    (hx : x ∈ attempts mode i n m) : ∃ a, x.step mode.decays = .ok a := by
  induction n generalizing i m with
  | zero => cases hx
  | succ n ih =>
    simp only [after, attempts] at h hx
    split at h
    · cases h
    next m₁ hcycle =>
    split at h
    · cases h
    next a hstep =>
    simp only [hcycle, hstep] at hx
    rcases List.mem_cons.1 hx with rfl | hx
    · exact ⟨a, hstep⟩
    · exact ih h hx

/-- An attempt that did not wait has completed. -/
theorem exists_completed (h : after mode i n m = .ok m') {x : Machine}
    (hx : x ∈ attempts mode i n m) (hwaits : x.isWaiting = false) :
    ∃ y, x.step mode.decays = .ok ⟨y, true⟩ := by
  obtain ⟨⟨y, completed⟩, hstep⟩ := exists_step_of_mem_attempts h hx
  have hcompleted := Machine.completed_eq_not_isWaiting hstep
  rw [hwaits] at hcompleted
  cases hcompleted
  exact ⟨y, hstep⟩

theorem length_attempts_le (mode : TimerMode) (i n : Nat) (m : Machine) :
    (attempts mode i n m).length ≤ n := by
  induction n generalizing i m with
  | zero => exact Nat.le_refl 0
  | succ n ih =>
    simp only [attempts]
    split
    · exact Nat.zero_le _
    split
    · exact Nat.succ_le_succ (Nat.zero_le n)
    · exact Nat.succ_le_succ (ih _ _)

/-- A run that ends without an error has made an attempt in every cycle. -/
theorem length_attempts (h : after mode i n m = .ok m') : (attempts mode i n m).length = n := by
  induction n generalizing i m with
  | zero => rfl
  | succ n ih =>
    simp only [after, attempts] at h ⊢
    split at h
    · cases h
    next hcycle =>
    split at h
    · cases h
    next hstep => rw [List.length_cons, ih h]

/-- The attempts that did not wait are all but those that did. -/
theorem countP_not_isWaiting (h : after mode i n m = .ok m') :
    ((attempts mode i n m).countP fun x => !x.isWaiting) =
      n - (attempts mode i n m).countP Machine.isWaiting := by
  have hlength := length_attempts h
  have hsplit := List.length_eq_countP_add_countP Machine.isWaiting (l := attempts mode i n m)
  simp only [Bool.not_eq_true, Bool.decide_eq_false] at hsplit
  omega

end Run

end Chip8
