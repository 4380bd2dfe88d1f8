/-
  Chip8/Proofs/Countdown.lean
  ===========================
  **The law of the timers** — after a headless run a timer holds what it was last set to,
  less one for every time that it has counted down since, and never less than zero.

  How often a timer counts down is told from the attempts of the run (`TimerMode.ticks`):
  once for every completed instruction, or else once for every frame boundary.  A step that does
  not set the timer subtracts its ticks (`value_step`), so a run without such a step subtracts
  the ticks of all cycles (`value_after`).  The step that sets it last cuts the run in two;
  there the modes differ, since a frame begins before its first step, but the instruction
  that sets a timer counts it down afterwards.
-/
import Mathlib.Data.Int.CardIntervalMod
import Chip8.Proofs.Composition
import Chip8.Proofs.Operations

namespace Chip8

/-! ### Timers -/

inductive Timer where
  | delay
  | sound
  deriving DecidableEq, Repr

namespace Timer

def value (m : Machine) : Timer → UInt8
  | delay => m.delay
  | sound => m.sound

def part : Timer → Part
  | delay => .delay
  | sound => .sound

/-- The last byte of the words that set a timer. -/
def setter : Timer → Nat
  | delay => 0x15
  | sound => 0x18

/-- What a step in a machine sets a timer to, if it completes a word that sets it: the register
    that the word names. -/
def set? (t : Timer) (decay : Bool) (m : Machine) : Option UInt8 :=
  if m.completes (.step decay) = true ∧ (Opcode.ofWord m.peek).IsMisc t.setter then
    some (m.reg ⟨(Opcode.ofWord m.peek).x, Opcode.x_lt _⟩)
  else none

variable {t : Timer} {m m' : Machine} {decay : Bool} {a : Attempt} {v : UInt8}

theorem value_of_agrees (h : t.part.Agrees m m') : t.value m' = t.value m := by
  cases t <;> exact h

theorem writes_part (o : Opcode) (index : Nat) : o.Writes index t.part ↔ o.IsMisc t.setter := by
  cases t <;> exact Iff.rfl

theorem toNat_countDown (b : UInt8) : (Machine.countDown b).toNat = b.toNat - 1 := by
  unfold Machine.countDown
  split
  · next hzero => simp [hzero]
  · next hpos =>
    have hne : b.toNat ≠ 0 := fun h => hpos (UInt8.toNat_inj.1 h)
    have hone : (1 : UInt8) ≤ b := UInt8.le_iff_toNat_le.2 (Nat.one_le_iff_ne_zero.2 hne)
    exact UInt8.toNat_sub_of_le b 1 hone

theorem toNat_value_tick (t : Timer) (m : Machine) :
    (t.value m.tick).toNat = (t.value m).toNat - 1 := by
  cases t <;> exact toNat_countDown _

theorem toNat_value_iterate_tick (t : Timer) (n : Nat) (m : Machine) :
    (t.value (Machine.tick^[n] m)).toNat = (t.value m).toNat - n := by
  induction n generalizing m with
  | zero => rfl
  | succ n ih =>
    rw [Function.iterate_succ_apply, ih, toNat_value_tick]
    omega

theorem toNat_value_tickIf (t : Timer) (m : Machine) (decay : Bool) :
    (t.value (m.tickIf decay)).toNat = (t.value m).toNat - decay.toNat := by
  cases decay with
  | false => rfl
  | true => exact toNat_value_tick t m

/-! ### Steps -/

theorem value_execute_of_isMisc (m : Machine) {word : Int}
    (h : (Opcode.ofWord word).IsMisc t.setter) :
    t.value (m.execute word) = m.reg ⟨(Opcode.ofWord word).x, Opcode.x_lt word⟩ := by
  rw [Machine.execute, Instruction.ofWord_of_isMisc h]
  cases t <;> rfl

theorem completes_of_set (h : t.set? decay m = some v) : m.completes (.step decay) = true := by
  unfold set? at h
  split at h
  · next hset => exact hset.1
  · cases h

/-- A timer may count down after the instruction that sets it. -/
theorem value_step_of_set (hstep : m.step decay = .ok a) (h : t.set? decay m = some v) :
    (t.value a.machine).toNat = v.toNat - decay.toNat := by
  have hcompletes := completes_of_set h
  unfold set? at h
  split at h
  case isFalse => cases h
  next hset =>
  cases h
  simp only [Machine.completes, hstep] at hcompletes
  obtain ⟨m', completed⟩ := a
  cases hcompletes
  obtain ⟨-, -, -, rfl⟩ := Machine.step_eq_completed_iff.1 hstep
  rw [Machine.ran, toNat_value_tickIf, value_execute_of_isMisc _ hset.2]
  rfl

/-- A step that does not set a timer lets it count down, if it completes and is asked to. -/
theorem value_step (hstep : m.step decay = .ok a) (h : t.set? decay m = none) :
    (t.value a.machine).toNat =
      (t.value m).toNat - (decay && m.completes (.step decay)).toNat := by
  obtain ⟨m', completed⟩ := a
  cases completed with
  | false =>
    obtain ⟨rfl, -⟩ := Machine.eq_of_step_eq_waiting hstep
    simp [Machine.completes, hstep]
  | true =>
    have hcompletes : m.completes (.step decay) = true := by
      simp only [Machine.completes, hstep]
    have hmisc : ¬ (Opcode.ofWord m.peek).IsMisc t.setter := by
      intro hmisc
      rw [set?, if_pos ⟨hcompletes, hmisc⟩] at h
      cases h
    obtain ⟨-, -, -, rfl⟩ := Machine.step_eq_completed_iff.1 hstep
    have hsame : t.part.Agrees (m.tickIf decay) (m.ran decay) :=
      Machine.ran_agrees fun hw => hmisc ((writes_part _ _).1 hw)
    rw [value_of_agrees hsame, toNat_value_tickIf, hcompletes, Bool.and_true]

end Timer

/-! ### Ticks of a run -/

namespace TimerMode

/-- How often the timers count down in the cycles from `i` on that make the attempts `xs`. -/
def ticks (mode : TimerMode) (i : Nat) (xs : List Machine) : Nat :=
  match mode with
  | perInstruction => xs.countP fun x => x.completes (.step true)
  | perFrame _ => mode.boundaries i (i + xs.length)

theorem ticks_nil (mode : TimerMode) (i : Nat) : mode.ticks i [] = 0 := by
  cases mode with
  | perInstruction => rfl
  | perFrame c => exact boundaries_self (perFrame c) i

/-- A cycle may tick before its step, and after it. -/
theorem ticks_cons (mode : TimerMode) (i : Nat) (x : Machine) (xs : List Machine) :
    mode.ticks i (x :: xs) = mode.boundaries i (i + 1) +
      (mode.decays && x.completes (.step mode.decays)).toNat + mode.ticks (i + 1) xs := by
  cases mode with
  | perInstruction =>
    have hnone : perInstruction.boundaries i (i + 1) = 0 := rfl
    simp only [ticks, decays, Bool.true_and, List.countP_cons, hnone]
    cases x.completes (.step true) <;> simp [Nat.add_comm]
  | perFrame c =>
    have hsum : (perFrame c).boundaries i (i + 1) +
        (perFrame c).boundaries (i + 1) (i + 1 + xs.length) =
          (perFrame c).boundaries i (i + 1 + xs.length) :=
      boundaries_add _ (by omega) (by omega)
    simp only [ticks, decays, Bool.false_and, Bool.toNat_false, Nat.add_zero, hsum,
      List.length_cons]
    rw [Nat.add_right_comm, Nat.add_assoc]

/-- The frames that begin in the first `n` cycles. -/
theorem boundaries_zero {c : Int} (hc : 1 ≤ c) (n : Nat) :
    (perFrame c).boundaries 0 n = ⌈(n : ℚ) / c⌉₊ := by
  obtain ⟨r, rfl⟩ := Int.eq_ofNat_of_zero_le (Int.le_trans (by decide) hc)
  have hr : 0 < r := by omega
  have hmultiples : ∀ k : Nat, (r : Int) ∣ (k : Int) ↔ k ≡ 0 [MOD r] := by
    intro k
    rw [Int.natCast_dvd_natCast, Nat.modEq_zero_iff_dvd]
  have hcard := Nat.Ico_filter_modEq_card 0 n hr 0
  have hceil : (0 : ℤ) ≤ ⌈(n : ℚ) / r⌉ := Int.ceil_nonneg (by positivity)
  rw [Nat.cast_zero, sub_zero, sub_zero, zero_div, Int.ceil_zero, sub_zero,
    max_eq_left hceil] at hcard
  simp only [boundaries, hmultiples]
  rw [← Int.ceil_toNat, Int.cast_natCast, ← hcard]
  rfl

end TimerMode

/-! ### Runs -/

namespace Run

open TimerMode (boundaries_zero ticks_nil ticks_cons)

variable {t : Timer} {mode : TimerMode} {i j n k : Nat} {m m' x : Machine} {v : UInt8}

/-- **What is left of a timer that no step sets.** -/
theorem value_after (hproper : mode.Proper) (h : after mode i n m = .ok m')
    (hnone : ∀ x ∈ attempts mode i n m, t.set? mode.decays x = none) :
    (t.value m').toNat = (t.value m).toNat - mode.ticks i (attempts mode i n m) := by
  induction n generalizing i m with
  | zero =>
    cases h
    rw [attempts, ticks_nil]
    rfl
  | succ n ih =>
    obtain ⟨a, hstep, hrest, hattempts⟩ := after_succ_eq_ok hproper h
    rw [hattempts] at hnone ⊢
    have hlast := ih hrest fun x hx => hnone x (List.mem_cons_of_mem _ hx)
    have hfirst := Timer.value_step hstep (hnone _ (List.mem_cons_self ..))
    have hentered : (t.value (mode.enter i m)).toNat =
        (t.value m).toNat - mode.boundaries i (i + 1) := t.toNat_value_iterate_tick _ m
    rw [hlast, hfirst, hentered, ticks_cons]
    omega

/-- **What is left of a timer that was last set in cycle `j` of a run.** -/
theorem value_after_set (hproper : mode.Proper) (h : after mode i n m = .ok m')
    (hx : (attempts mode i n m)[j]? = some x) (hset : t.set? mode.decays x = some v)
    (hlast : ∀ y ∈ (attempts mode i n m).drop (j + 1), t.set? mode.decays y = none) :
    (t.value m').toNat = v.toNat -
      (mode.decays.toNat + mode.ticks (i + j + 1) ((attempts mode i n m).drop (j + 1))) := by
  obtain ⟨a, hstep, hrest, hdrop⟩ := exists_attempt hproper h hx
  rw [hdrop] at hlast ⊢
  rw [value_after hproper hrest hlast, Timer.value_step_of_set hstep hset, Nat.sub_sub]

/-- The number of instructions that complete in a run is the one that the run returns. -/
theorem countP_completes (h : after mode i n m = .ok m') :
    ((attempts mode i n m).countP fun x => x.completes (.step mode.decays)) =
      (attempts mode i n m).countP fun x => !x.isWaiting := by
  apply List.countP_congr
  intro x hx
  obtain ⟨a, hstep⟩ := exists_step_of_mem_attempts h hx
  have hcompletes : x.completes (.step mode.decays) = a.completed := by
    simp only [Machine.completes, hstep]
  rw [hcompletes, Machine.completed_eq_not_isWaiting hstep]

/-- **The law of the timers.**  A headless run that returns leaves a timer that it does not set at
    its value at the start less the ticks of the run: one for each completed instruction, or
    one for each frame begun.  If the run sets the timer last in cycle `j`, what is left is that value
    less the ticks since: one for each instruction completed from cycle `j` on, or one for each
    frame begun after it. -/
theorem cycles_count_down (t : Timer) (mode : TimerMode) (hproper : mode.Proper) (traced : Bool)
    (n : Nat) (m m' : Machine) (k : Nat) (h : (cycles mode traced n m).result = .ok (m', k)) :
    ((∀ x ∈ attempts mode 0 n m, t.set? mode.decays x = none) →
      (mode = .perInstruction → (t.value m').toNat = (t.value m).toNat - k) ∧
      ∀ c, mode = .perFrame c → (t.value m').toNat = (t.value m).toNat - ⌈(n : ℚ) / c⌉₊) ∧
    ∀ j x v, (attempts mode 0 n m)[j]? = some x → t.set? mode.decays x = some v →
      (∀ y ∈ (attempts mode 0 n m).drop (j + 1), t.set? mode.decays y = none) →
      (mode = .perInstruction → (t.value m').toNat =
        v.toNat - ((attempts mode 0 n m).drop j).countP fun y => y.completes (.step true)) ∧
      ∀ c, mode = .perFrame c → (t.value m').toNat =
        v.toNat - ((Finset.Ioo j n).filter fun i : Nat => c ∣ (i : Int)).card := by
  obtain ⟨-, hrun, hk⟩ := result_cycles_eq_ok h
  have hlength := length_attempts hrun
  constructor
  · intro hnone
    have hvalue := value_after hproper hrun hnone
    constructor
    · rintro rfl
      rw [hvalue, hk, ← countP_completes hrun]
      rfl
    · rintro c rfl
      rw [hvalue, ← boundaries_zero hproper, TimerMode.ticks, hlength, Nat.zero_add]
  · intro j x v hx hset hlast
    have hvalue := value_after_set hproper hrun hx hset hlast
    obtain ⟨hj, hget⟩ := List.getElem?_eq_some_iff.1 hx
    constructor
    · rintro rfl
      have hcompletes : x.completes (.step true) = true := Timer.completes_of_set hset
      rw [hvalue, List.drop_eq_getElem_cons hj, hget, List.countP_cons, if_pos hcompletes,
        Nat.add_comm]
      rfl
    · rintro c rfl
      have hzero : (TimerMode.perFrame c).decays.toNat = 0 := rfl
      rw [hlength] at hj
      rw [hvalue, hzero, TimerMode.ticks, List.length_drop, hlength, Nat.zero_add, Nat.zero_add,
        Nat.add_sub_cancel' hj, TimerMode.boundaries, ← Finset.Ico_add_one_left_eq_Ioo]

/-- In frames of two cycles: the second instruction sets the delay to 9, the third asks for a key,
    and three of the cycles after it begin a frame.  The sound timer is not set, and four frames
    begin. -/
theorem cycles_count_down_to_key :
    let mode : TimerMode := .perFrame 2
    let asking : Machine :=
      { Machine.initial ⟨0, 0⟩ with
        memory := Cells.writeAll Memory.withFont 0x200 [0x60, 0x09, 0xF0, 0x15, 0xF1, 0x0A]
        sound := 5 }
    ∃ m', (cycles mode false (7 : Nat) asking).result = .ok (m', 2) ∧
      (Timer.delay.value m').toNat = 9 - 3 ∧ (Timer.sound.value m').toNat = 5 - 4 := by
  intro mode asking
  have hproper : mode.Proper := by
    change (1 : Int) ≤ 2
    decide
  obtain ⟨hresult, hdelay, hsound⟩ :
      ((cycles mode false (7 : Nat) asking).result.map Prod.snd) = .ok 2 ∧
      (attempts mode 0 7 asking).map (Timer.delay.set? false) =
        none :: some 9 :: List.replicate 5 none ∧
      (attempts mode 0 7 asking).map (Timer.sound.set? false) = List.replicate 7 none := by
    decide +kernel
  obtain ⟨x, hx, hset⟩ : ∃ x, (attempts mode 0 7 asking)[1]? = some x ∧
      Timer.delay.set? false x = some 9 := by
    apply Option.map_eq_some_iff.1
    rw [← List.getElem?_map, hdelay]
    rfl
  have hlater : ∀ y ∈ (attempts mode 0 7 asking).drop 2, Timer.delay.set? false y = none := by
    intro y hy
    have hmem := List.mem_map_of_mem (f := Timer.delay.set? false) hy
    rw [List.map_drop, hdelay] at hmem
    exact List.eq_of_mem_replicate hmem
  have hnever : ∀ y ∈ attempts mode 0 7 asking, Timer.sound.set? false y = none := by
    intro y hy
    have hmem := List.mem_map_of_mem (f := Timer.sound.set? false) hy
    rw [hsound] at hmem
    exact List.eq_of_mem_replicate hmem
  cases h : (cycles mode false (7 : Nat) asking).result with
  | error e =>
    rw [h] at hresult
    cases hresult
  | ok last =>
    obtain ⟨m', k⟩ := last
    rw [h] at hresult
    cases hresult
    refine ⟨m', rfl, ?_, ?_⟩
    · exact ((cycles_count_down .delay mode hproper false 7 asking m' 2 h).2 1 x 9 hx hset
        hlater).2 2 rfl
    · have hceil : ⌈((7 : Nat) : ℚ) / (2 : Int)⌉₊ = 4 := by decide +kernel
      rw [((cycles_count_down .sound mode hproper false 7 asking m' 2 h).1 hnever).2 2 rfl, hceil]
      rfl

end Run

end Chip8
