/-
  Chip8/Proofs/Blocking.lean
  ==========================
  **A blocked run stays blocked** — nothing in a headless run presses a key, so from the
  first cycle that waits for one all cycles wait, and the count of completed instructions
  says which cycle that is.

  A waiting step returns the machine that it was given; between steps only the timers
  change, and whether a machine waits does not depend on them (`isWaiting_iterate_tick`).
  So the attempts of a run are some that complete and then some that wait (`exists_cut`).
-/
import Mathlib.Logic.Function.Iterate
import Chip8.Proofs.Composition
import Chip8.Proofs.Encoding

namespace Chip8

/-! ### Machines that wait -/

namespace Machine

variable {m : Machine}

theorem isWaiting_iff : m.isWaiting = true ↔
    m.pc.toNat + 1 < Memory.size ∧ m.check m.peek = .ok () ∧ m.waitsOn m.peek = true := by
  have hstep := m.step_stepped false
  unfold isWaiting
  generalize m.step false = outcome at hstep
  cases hstep with
  | outside hpc => simp [Nat.not_lt.2 hpc]
  | refused hpc hcheck => simp [hcheck]
  | waiting hpc hrun hwaits => simp [hpc, (check_eq_ok_iff _).2 hrun, hwaits]
  | running hpc hrun hwaits => simp [hwaits]

theorem step_of_isWaiting (h : m.isWaiting = true) (decay : Bool) :
    m.step decay = .ok ⟨m, false⟩ := by
  obtain ⟨hpc, hcheck, hwaits⟩ := isWaiting_iff.1 h
  exact (Stepped.waiting hpc ((check_eq_ok_iff _).1 hcheck) hwaits).eq

theorem isWaiting_tick (m : Machine) : m.tick.isWaiting = m.isWaiting := by
  rw [Bool.eq_iff_iff, isWaiting_iff, isWaiting_iff]
  exact Iff.rfl

theorem isWaiting_iterate_tick (n : Nat) (m : Machine) :
    (tick^[n] m).isWaiting = m.isWaiting := by
  induction n generalizing m with
  | zero => rfl
  | succ n ih => rw [Function.iterate_succ_apply, ih, isWaiting_tick]

/-- A machine that waits is at a word that asks for a key, and has none. -/
theorem awaits_of_isWaiting (h : m.isWaiting = true) :
    m.pc.toNat + 1 < Memory.size ∧ (Opcode.ofWord m.peek).IsMisc 0x0A ∧
      ∀ (key : Nat) (_ : key < 16), m.keypad[key] = false := by
  obtain ⟨hpc, -, hwaits⟩ := isWaiting_iff.1 h
  simp only [waitsOn, Keypad.anyDown, Bool.and_eq_true, beq_iff_eq, Bool.not_eq_true',
    Vector.any_eq_false, id, Bool.not_eq_true] at hwaits
  exact ⟨hpc, hwaits.1, hwaits.2⟩

end Machine

namespace Run

variable {mode : TimerMode} {traced : Bool} {i n k : Nat} {m m' : Machine}

theorem isWaiting_enter (mode : TimerMode) (i : Nat) (m : Machine) :
    (mode.enter i m).isWaiting = m.isWaiting :=
  Machine.isWaiting_iterate_tick _ m

section Proper

variable (hproper : mode.Proper)
include hproper

theorem cycle_of_isWaiting (h : m.isWaiting = true) :
    after mode i (n + 1) m = after mode (i + 1) n (mode.enter i m) ∧
      attempts mode i (n + 1) m = mode.enter i m :: attempts mode (i + 1) n (mode.enter i m) := by
  have hcycle := TimerMode.atCycle_eq hproper i m
  have hstep := Machine.step_of_isWaiting ((isWaiting_enter mode i m).trans h) mode.decays
  exact ⟨after_succ hcycle hstep, attempts_succ hcycle hstep⟩

/-- From a machine that waits on, only the timers change. -/
theorem after_of_isWaiting (h : m.isWaiting = true) :
    after mode i n m = .ok (Machine.tick^[mode.boundaries i (i + n)] m) := by
  induction n generalizing i m with
  | zero =>
    rw [Nat.add_zero, TimerMode.boundaries_self]
    rfl
  | succ n ih =>
    have hsum : mode.boundaries i (i + 1) + mode.boundaries (i + 1) (i + 1 + n) =
        mode.boundaries i (i + 1 + n) := mode.boundaries_add (by omega) (by omega)
    rw [(cycle_of_isWaiting hproper h).1, ih ((isWaiting_enter mode i m).trans h), TimerMode.enter,
      ← Function.iterate_add_apply, Nat.add_comm (mode.boundaries (i + 1) _), hsum,
      Nat.add_right_comm i 1 n]
    rfl

theorem attempts_of_isWaiting (h : m.isWaiting = true) :
    ∀ x ∈ attempts mode i n m, x.isWaiting = true := by
  induction n generalizing i m with
  | zero =>
    intro x hx
    cases hx
  | succ n ih =>
    have hwaits := (isWaiting_enter mode i m).trans h
    rw [(cycle_of_isWaiting hproper h).2]
    intro x hx
    rcases List.mem_cons.1 hx with rfl | hx
    · exact hwaits
    · exact ih hwaits x hx

/-! ### The cut -/

theorem exists_first_waiting (h : after mode i n m = .ok m') :
    ∃ k mk, k ≤ n ∧ after mode i k m = .ok mk ∧
      (∀ x ∈ attempts mode i k m, x.isWaiting = false) ∧ (k < n → mk.isWaiting = true) := by
  induction n generalizing i m with
  | zero =>
    refine ⟨0, m, Nat.le_refl 0, rfl, ?_, fun hlt => absurd hlt (Nat.lt_irrefl 0)⟩
    intro x hx
    cases hx
  | succ n ih =>
    by_cases hwaits : m.isWaiting = true
    · refine ⟨0, m, Nat.zero_le _, rfl, ?_, fun _ => hwaits⟩
      intro x hx
      cases hx
    · obtain ⟨a, hstep, hrest, -⟩ := after_succ_eq_ok hproper h
      obtain ⟨k, mk, hk, hmk, hbefore, hafter⟩ := ih hrest
      have hcycle := TimerMode.atCycle_eq hproper i m
      refine ⟨k + 1, mk, Nat.succ_le_succ hk, ?_, ?_, fun hlt => hafter (Nat.lt_of_succ_lt_succ hlt)⟩
      · rw [after_succ hcycle hstep]
        exact hmk
      · rw [attempts_succ hcycle hstep]
        intro x hx
        rcases List.mem_cons.1 hx with rfl | hx
        · exact (isWaiting_enter mode i m).trans (Bool.eq_false_iff.2 hwaits)
        · exact hbefore x hx

/-- After `k` cycles that do not wait, a run of `n` cycles has come to a machine `mk` in which all
    others do. -/
structure Cut (mode : TimerMode) (i n : Nat) (m m' : Machine) (k : Nat) (mk : Machine) : Prop where
  le : k ≤ n
  reached : after mode i k m = .ok mk
  attempts_eq : attempts mode i n m = attempts mode i k m ++ attempts mode (i + k) (n - k) mk
  before : ∀ x ∈ attempts mode i k m, x.isWaiting = false
  rest : ∀ x ∈ attempts mode (i + k) (n - k) mk, x.isWaiting = true
  ticks : m' = Machine.tick^[mode.boundaries (i + k) (i + n)] mk
  waiting : k < n → m'.isWaiting = true

/-- **A run is some cycles that do not wait, and then some that do.** -/
theorem exists_cut (h : after mode i n m = .ok m') : ∃ k mk, Cut mode i n m m' k mk := by
  obtain ⟨k, mk, hk, hmk, hbefore, hwaits⟩ := exists_first_waiting hproper h
  have hsplit : attempts mode i n m = attempts mode i k m ++ attempts mode (i + k) (n - k) mk := by
    rw [← attempts_add hmk, Nat.add_sub_cancel' hk]
  have hrest : after mode (i + k) (n - k) mk = .ok m' := by
    rw [← after_add hmk, Nat.add_sub_cancel' hk]
    exact h
  rcases Nat.eq_or_lt_of_le hk with rfl | hlt
  · rw [Nat.sub_self] at hrest
    cases hrest
    refine ⟨k, m', hk, hmk, hsplit, hbefore, ?_, ?_, fun hlt => absurd hlt (Nat.lt_irrefl k)⟩
    · simp [attempts]
    · rw [TimerMode.boundaries_self]
      rfl
  · have hmk' := hwaits hlt
    have hticks : m' = Machine.tick^[mode.boundaries (i + k) (i + n)] mk := by
      rw [after_of_isWaiting hproper hmk', Nat.add_assoc, Nat.add_sub_cancel' hk] at hrest
      exact (Except.ok.inj hrest).symm
    refine ⟨k, mk, hk, hmk, hsplit, hbefore, attempts_of_isWaiting hproper hmk', hticks, ?_⟩
    intro _
    rw [hticks, Machine.isWaiting_iterate_tick]
    exact hmk'

end Proper

theorem countP_of_not_isWaiting {l : List Machine} (h : ∀ x ∈ l, x.isWaiting = false) :
    (l.countP fun x => !x.isWaiting) = l.length := by
  rw [List.countP_eq_length]
  intro x hx
  simp [h x hx]

/-- The completed instructions of a run are counted before the cut. -/
theorem Cut.countP {mk : Machine} (h : Cut mode i n m m' k mk) :
    ((attempts mode i n m).countP fun x => !x.isWaiting) = k := by
  have hnone : ((attempts mode (i + k) (n - k) mk).countP fun x => !x.isWaiting) = 0 := by
    rw [List.countP_eq_zero]
    intro x hx
    simp [h.rest x hx]
  rw [h.attempts_eq, List.countP_append, countP_of_not_isWaiting h.before, hnone,
    length_attempts h.reached]
  rfl

/-- **A blocked run stays blocked.**  A headless run that returns a count has completed an
    instruction in each of so many cycles and waited in all others; if it waited at all, its last
    machine is at a word that asks for a key and has none; and that machine is the one after the
    completed cycles, except that the timers have counted down at the frame boundaries since. -/
theorem cycles_stay_blocked (mode : TimerMode) (hproper : mode.Proper) (traced : Bool) (n : Nat)
    (m m' : Machine) (k : Nat) (h : (cycles mode traced n m).result = .ok (m', k)) :
    k ≤ n ∧ (attempts mode 0 n m).length = n ∧
    (∀ j x, (attempts mode 0 n m)[j]? = some x →
      (j < k → ∃ y, x.step mode.decays = .ok ⟨y, true⟩) ∧
      (k ≤ j → x.step mode.decays = .ok ⟨x, false⟩)) ∧
    (k < n → m'.pc.toNat + 1 < Memory.size ∧ (Opcode.ofWord m'.peek).IsMisc 0x0A ∧
      ∀ (key : Nat) (_ : key < 16), m'.keypad[key] = false) ∧
    ∃ mk, (cycles mode traced k m).result = .ok (mk, k) ∧
      (mode = .perInstruction → m' = mk) ∧ m' = Machine.tick^[mode.boundaries k n] mk := by
  obtain ⟨hcount, hrun, rfl⟩ := result_cycles_eq_ok h
  obtain ⟨k, mk, hcut⟩ := exists_cut hproper hrun
  rw [hcut.countP]
  have hk := hcut.le
  have hlength := length_attempts hcut.reached
  have hticks : m' = Machine.tick^[mode.boundaries k n] mk := by
    simpa only [Nat.zero_add] using hcut.ticks
  refine ⟨hk, length_attempts hrun, ?_, ?_, mk, ?_, ?_, hticks⟩
  · intro j x hx
    rw [hcut.attempts_eq] at hx
    constructor
    · intro hlt
      rw [List.getElem?_append_left (by omega)] at hx
      have hmem := List.mem_of_getElem? hx
      exact exists_completed hcut.reached hmem (hcut.before x hmem)
    · intro hle
      rw [List.getElem?_append_right (by omega)] at hx
      exact Machine.step_of_isWaiting (hcut.rest x (List.mem_of_getElem? hx)) _
  · intro hlt
    exact Machine.awaits_of_isWaiting (hcut.waiting hlt)
  · rw [result_cycles (by omega), Int.toNat_natCast, hcut.reached]
    change Except.ok (mk, _) = _
    rw [countP_of_not_isWaiting hcut.before, hlength]
  · rintro rfl
    exact hticks

/-- In frames of two cycles: the first two instructions set a delay of 9, the third asks for a
    key, and the timer counts down at the cycles 2 and 4 of the four that wait for it. -/
theorem cycles_stay_blocked_on_key :
    let mode : TimerMode := .perFrame 2
    let asking : Machine :=
      { Machine.initial ⟨0, 0⟩ with
        memory := Cells.writeAll Memory.withFont 0x200 [0x60, 0x09, 0xF0, 0x15, 0xF1, 0x0A] }
    ∃ m' mk, (cycles mode false (6 : Nat) asking).result = .ok (m', 2) ∧
      (cycles mode false (2 : Nat) asking).result = .ok (mk, 2) ∧
      m' = Machine.tick^[2] mk ∧ m'.delay = 7 ∧ (Opcode.ofWord m'.peek).IsMisc 0x0A := by
  intro mode asking
  have hresult : ((cycles mode false (6 : Nat) asking).result.map fun r => (r.1.delay, r.2)) =
      .ok (7, 2) := by decide +kernel
  cases h : (cycles mode false (6 : Nat) asking).result with
  | error e =>
    rw [h] at hresult
    cases hresult
  | ok last =>
    obtain ⟨m', k⟩ := last
    rw [h] at hresult
    obtain ⟨hdelay, hk⟩ := Prod.mk.inj (Except.ok.inj hresult)
    subst hk
    have hproper : mode.Proper := by
      change (1 : Int) ≤ 2
      decide
    obtain ⟨-, -, -, hblocked, mk, hmk, -, hticks⟩ :=
      cycles_stay_blocked mode hproper false 6 asking m' 2 h
    exact ⟨m', mk, rfl, hmk, hticks, hdelay, (hblocked (by decide)).2.1⟩

end Run

end Chip8
