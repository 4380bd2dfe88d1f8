/-
  Chip8/Proofs/Composition.lean
  =============================
  **Runs compose** — to run some cycles and then some more is to run them all, with counts
  added and traces put one after the other; an error of the first cycles is the error of all.

  The loop counts its cycles, and frames are told from their numbers.  So a run can be cut
  anywhere if the second part goes on counting (`cyclesFrom_add`), and the second part may
  start again at zero where a frame begins, since frames repeat from there
  (`cyclesFrom_shift`).  The machines and the attempts of a run are cut in the same way
  (`after_add`, `attempts_add`), and so are the frame boundaries that it passes
  (`boundaries_add`).
-/
import Mathlib.Algebra.BigOperators.Intervals
import Chip8.Proofs.Cycles

namespace Chip8

/-! ### Frames repeat -/

namespace TimerMode

variable {mode : TimerMode} {a i j k : Nat}

theorem atCycle_add (h : mode.Begins a) (i : Nat) (m : Machine) :
    mode.atCycle (i + a) m = mode.atCycle i m := by
  cases mode with
  | perInstruction => rfl
  | perFrame c =>
    have ha : (a : Int) % c = 0 := h
    have hsame : ((i + a : Nat) : Int) % c = (i : Int) % c := by
      rw [Int.natCast_add, Int.add_emod, ha, Int.add_zero, Int.emod_emod]
    simp only [atCycle, hsame]

/-- How many frames begin among the cycles from `i` on and before `j`. -/
def boundaries : TimerMode → (i j : Nat) → Nat
  | perInstruction, _, _ => 0
  | perFrame c, i, j => ((Finset.Ico i j).filter fun k : Nat => c ∣ (k : Int)).card

theorem boundaries_self (mode : TimerMode) (i : Nat) : mode.boundaries i i = 0 := by
  cases mode with
  | perInstruction => rfl
  | perFrame c => simp [boundaries]

theorem boundaries_add (mode : TimerMode) (hij : i ≤ j) (hjk : j ≤ k) :
    mode.boundaries i j + mode.boundaries j k = mode.boundaries i k := by
  cases mode with
  | perInstruction => rfl
  | perFrame c =>
    simp only [boundaries, Finset.card_filter]
    exact Finset.sum_Ico_consecutive _ hij hjk

/-- The machine that the step of cycle `i` is given: where a frame begins, the timers have
    counted down. -/
def enter (mode : TimerMode) (i : Nat) (m : Machine) : Machine :=
  Machine.tick^[mode.boundaries i (i + 1)] m

theorem atCycle_eq (hproper : mode.Proper) (i : Nat) (m : Machine) :
    mode.atCycle i m = .ok (mode.enter i m) := by
  unfold enter
  cases mode with
  | perInstruction => rfl
  | perFrame c =>
    have hc : c ≠ 0 := Int.ne_of_gt (Int.lt_of_lt_of_le Int.zero_lt_one hproper)
    have hdvd : c ∣ (i : Int) ↔ (i : Int) % c = 0 := Int.dvd_iff_emod_eq_zero
    simp only [atCycle, hc, if_false, boundaries, Nat.Ico_succ_singleton, Finset.card_filter,
      Finset.sum_singleton, hdvd]
    split <;> rfl

end TimerMode

namespace Run

variable {mode : TimerMode} {traced : Bool} {a b i n : Nat} {m m' : Machine} {e : Error}

/-! ### One run after another -/

/-- Go on from the last machine of a run: traces follow each other and counts are added.  After
    an error nothing follows. -/
def andThen (r : Run) (next : Machine → Run) : Run :=
  match r.result with
  | .error _ => r
  | .ok (m, k) => ⟨r.log ++ (next m).log, (next m).result.map fun (m', k') => (m', k + k')⟩

theorem andThen_of_error {r : Run} (h : r.result = .error e) (next : Machine → Run) :
    r.andThen next = r := by
  simp only [andThen, h]

/-- What a run has counted and traced before does not change how it goes on. -/
theorem cyclesFrom_eq_andThen (completed : Nat) (log : List Trace) :
    cyclesFrom mode traced n i completed log m =
      (⟨log.reverse, .ok (m, completed)⟩ : Run).andThen (cyclesFrom mode traced n i 0 []) := by
  induction n generalizing i completed log m with
  | zero => simp [cyclesFrom, andThen, Except.map]
  | succ n ih =>
    simp only [cyclesFrom, andThen]
    cases mode.atCycle i m with
    | error e => simp [Except.map]
    | ok m =>
      simp only
      cases m.step mode.decays with
      | error e => cases traced <;> simp [Except.map]
      | ok a =>
        simp only
        rw [ih (completed + _), ih (0 + _)]
        simp only [andThen]
        cases (cyclesFrom mode traced n (i + 1) 0 [] a.machine).result with
        | error e => cases traced <;> simp [Except.map]
        | ok last => cases traced <;> simp [Except.map, Nat.add_assoc]

/-- A run can be cut anywhere if its second part goes on counting cycles. -/
theorem cyclesFrom_add (completed : Nat) (log : List Trace) :
    cyclesFrom mode traced (a + b) i completed log m =
      (cyclesFrom mode traced a i completed log m).andThen
        (cyclesFrom mode traced b (i + a) 0 []) := by
  induction a generalizing i completed log m with
  | zero =>
    rw [Nat.zero_add, cyclesFrom_eq_andThen]
    rfl
  | succ a ih =>
    rw [Nat.add_right_comm]
    simp only [cyclesFrom]
    cases mode.atCycle i m with
    | error e => rfl
    | ok m =>
      simp only
      cases m.step mode.decays with
      | error e => rfl
      | ok x =>
        simp only
        rw [ih, Nat.add_assoc i 1 a, Nat.add_comm 1 a]

/-- Where a frame begins, cycles may as well be counted from zero. -/
theorem cyclesFrom_shift (h : mode.Begins a) (completed : Nat) (log : List Trace) :
    cyclesFrom mode traced n (i + a) completed log m =
      cyclesFrom mode traced n i completed log m := by
  induction n generalizing i completed log m with
  | zero => rfl
  | succ n ih =>
    simp only [cyclesFrom, TimerMode.atCycle_add h, Nat.add_right_comm i a 1, ih]

theorem result_cyclesFrom_add_of_error {completed : Nat} {log : List Trace}
    (h : (cyclesFrom mode traced a i completed log m).result = .error e) :
    (cyclesFrom mode traced (a + b) i completed log m).result = .error e := by
  rw [cyclesFrom_add, andThen_of_error h]
  exact h

theorem cycles_of_lt {count : Int} (h : count < countLimit) :
    cycles mode traced count m = cyclesFrom mode traced count.toNat 0 0 [] m :=
  if_neg (Int.not_le.2 h)

/-! ### Machines and attempts of a run in two parts -/

theorem after_add (h : after mode i a m = .ok m') :
    after mode i (a + b) m = after mode (i + a) b m' := by
  induction a generalizing i m with
  | zero =>
    cases h
    rw [Nat.zero_add]
    rfl
  | succ a ih =>
    rw [Nat.add_right_comm]
    simp only [after] at h ⊢
    split at h
    · cases h
    split at h
    · cases h
    rw [ih h, Nat.add_assoc i 1 a, Nat.add_comm 1 a]

theorem attempts_add (h : after mode i a m = .ok m') :
    attempts mode i (a + b) m = attempts mode i a m ++ attempts mode (i + a) b m' := by
  induction a generalizing i m with
  | zero =>
    cases h
    rw [Nat.zero_add]
    rfl
  | succ a ih =>
    rw [Nat.add_right_comm]
    simp only [after, attempts] at h ⊢
    split at h
    · cases h
    split at h
    · cases h
    rw [ih h, Nat.add_assoc i 1 a, Nat.add_comm 1 a]
    rfl

/-- A run of at least one cycle that ends without an error has made a first attempt, and goes on
    from what that left. -/
theorem after_succ_eq_ok (hproper : mode.Proper) (h : after mode i (n + 1) m = .ok m') :
    ∃ x, (mode.enter i m).step mode.decays = .ok x ∧ after mode (i + 1) n x.machine = .ok m' ∧
      attempts mode i (n + 1) m = mode.enter i m :: attempts mode (i + 1) n x.machine := by
  have hcycle := TimerMode.atCycle_eq hproper i m
  cases hstep : (mode.enter i m).step mode.decays with
  | error e =>
    rw [after_succ_of_error hcycle hstep] at h
    cases h
  | ok x =>
    rw [after_succ hcycle hstep] at h
    exact ⟨x, rfl, h, attempts_succ hcycle hstep⟩

/-- The machine after `j + 1` cycles is the one that the attempt of cycle `j` left. -/
theorem exists_attempt (hproper : mode.Proper) (h : after mode i n m = .ok m') {j : Nat}
    {x : Machine} (hx : (attempts mode i n m)[j]? = some x) :
    ∃ a, x.step mode.decays = .ok a ∧ after mode (i + j + 1) (n - (j + 1)) a.machine = .ok m' ∧
      (attempts mode i n m).drop (j + 1) = attempts mode (i + j + 1) (n - (j + 1)) a.machine := by
  induction n generalizing i j m with
  | zero => simp [attempts] at hx
  | succ n ih =>
    obtain ⟨a, hstep, hrest, hattempts⟩ := after_succ_eq_ok hproper h
    rw [hattempts] at hx ⊢
    cases j with
    | zero =>
      cases hx
      exact ⟨a, hstep, hrest, rfl⟩
    | succ j =>
      obtain ⟨b, hb, hafter, hdrop⟩ := ih hrest hx
      rw [Nat.add_right_comm i 1 j] at hafter hdrop
      rw [Nat.add_sub_add_right]
      exact ⟨b, hb, hafter, hdrop⟩

/-- **Runs compose.**  As long as cycles can be counted, an error of the first cycles is the error
    of all cycles, and where a frame begins after the first cycles a run of all is a run of the
    first and then one of the others; more cycles are refused before the first. -/
theorem cycles_add (mode : TimerMode) (traced : Bool) (a b : Nat) (m : Machine) :
    ((a + b : Nat) < countLimit →
      (∀ e, (cycles mode traced a m).result = .error e →
        (cycles mode traced (a + b : Nat) m).result = .error e) ∧
      (mode.Begins a →
        cycles mode traced (a + b : Nat) m =
          (cycles mode traced a m).andThen (cycles mode traced b))) ∧
    (countLimit ≤ (a + b : Nat) →
      cycles mode traced (a + b : Nat) m = ⟨[], .error .countOutOfRange⟩) := by
  constructor
  · intro hcount
    have ha : (a : Int) < countLimit := by omega
    have hb : (b : Int) < countLimit := by omega
    rw [cycles_of_lt hcount, cycles_of_lt ha, Int.toNat_natCast, Int.toNat_natCast]
    constructor
    · intro e he
      exact result_cyclesFrom_add_of_error he
    · intro hbegins
      rw [cyclesFrom_add, Nat.add_comm 0 a]
      congr 1
      funext m'
      rw [cycles_of_lt hb, Int.toNat_natCast, Nat.add_comm a 0, cyclesFrom_shift hbegins]
  · intro hcount
    rw [cycles, if_pos hcount]

/-- In frames of two cycles, five of them are two and then three: the jump to itself completes
    each time, and the timers count down at the cycles 0, 2 and 4.  An unknown word is met at
    once, however many cycles are left. -/
theorem cycles_add_of_jump :
    let mode : TimerMode := .perFrame 2
    let jump : Machine :=
      { Machine.initial ⟨0, 0⟩ with
        memory := Cells.writeAll Memory.withFont 0x200 [0x12, 0x00], delay := 9 }
    (cycles mode true (2 + 3 : Nat) jump =
        (cycles mode true (2 : Nat) jump).andThen (cycles mode true (3 : Nat)) ∧
      ((cycles mode true (2 + 3 : Nat) jump).result.map fun r => (r.1.delay, r.2)) =
        .ok (6, 5)) ∧
    (cycles mode true (1 + 4 : Nat) (Machine.initial ⟨0, 0⟩)).result =
      .error (.unknownOpcode 0 0x200) := by
  intro mode jump
  have hbegins : mode.Begins 2 := rfl
  obtain ⟨hfirst, hresult⟩ :
      (cycles mode true (1 : Nat) (Machine.initial ⟨0, 0⟩)).result =
        .error (.unknownOpcode 0 0x200) ∧
      ((cycles mode true (2 + 3 : Nat) jump).result.map fun r => (r.1.delay, r.2)) = .ok (6, 5) := by
    decide +kernel
  refine ⟨⟨?_, hresult⟩, ?_⟩
  · exact ((cycles_add mode true 2 3 jump).1 (by decide)).2 hbegins
  · exact ((cycles_add mode true 1 4 (Machine.initial ⟨0, 0⟩)).1 (by decide)).1 _ hfirst

/-- **A limit of composition.**  One cycle meets an unknown word, but 2⁶³ cycles are refused
    before the first of them. -/
theorem cycles_add_refused :
    let blank := Machine.initial ⟨0, 0⟩
    (cycles .perInstruction false (1 : Nat) blank).result = .error (.unknownOpcode 0 0x200) ∧
      (cycles .perInstruction false (1 + 0x7FFFFFFFFFFFFFFF : Nat) blank).result ≠
        .error (.unknownOpcode 0 0x200) := by
  intro blank
  constructor
  · decide +kernel
  · intro h
    have hrefused : cycles .perInstruction false (1 + 0x7FFFFFFFFFFFFFFF : Nat) blank =
        ⟨[], .error .countOutOfRange⟩ := if_pos (by decide)
    rw [hrefused] at h
    cases h

end Run

end Chip8
