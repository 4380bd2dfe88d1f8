/-
  Chip8/Proofs/Modes.lean
  =======================
  **The timer mode is invisible** — to a program that never reads the delay timer it is the same
  when the timers count down: headless runs in any two modes trace the same steps, and
  end with the same error or with the same count and machines that differ in the timers only.

  The two loops count down at different places, before a step or after it, but a machine agrees
  with itself off the timers however often they have counted down.  So the attempts of both
  runs agree one by one (`cyclesFrom_agree`), by induction over the cycles.
-/
import Mathlib.Logic.Function.Iterate
import Chip8.Proofs.Composition
import Chip8.Proofs.Hiding
import Chip8.Proofs.Operations

namespace Chip8

namespace Machine

/-! ### Machines that differ in the timers -/

/-- The parts that count down. -/
def timers : List Part := [.delay, .sound]

variable {m m' : Machine}

theorem isRim_of_mem_timers : ∀ p ∈ timers, p.IsRim := by
  simp [timers, Part.IsRim]

theorem agreeOff_tick (m : Machine) : AgreeOff timers m m.tick := by
  intro p hp
  cases p with
  | delay | sound => exact absurd hp (by simp [timers])
  | _ => rfl

theorem agreeOff_iterate_tick (n : Nat) (m : Machine) : AgreeOff timers m (tick^[n] m) := by
  induction n generalizing m with
  | zero => exact AgreeOff.refl timers m
  | succ n ih =>
    rw [Function.iterate_succ_apply]
    exact (agreeOff_tick m).trans (ih m.tick)

theorem agreeOff_tickIf (m : Machine) (decay decay' : Bool) :
    AgreeOff timers (m.tickIf decay) (m.tickIf decay') := by
  have hfrom : ∀ b, AgreeOff timers m (m.tickIf b) := by
    intro b
    cases b with
    | false => exact AgreeOff.refl timers m
    | true => exact agreeOff_tick m
  exact (hfrom decay).symm.trans (hfrom decay')

theorem AgreeOff.trace_eq (h : AgreeOff timers m m') : Trace.ofMachine m' = Trace.ofMachine m := by
  have hrim := isRim_of_mem_timers
  simp only [Trace.ofMachine, wordAt, byteAt, h.memory_eq hrim, h.pc_eq hrim, h.index_eq hrim,
    h.stack_eq hrim]

/-- A word that reads the delay timer runs whenever it is fetched. -/
theorem completes_of_fetchesReader (h : m.FetchesReader .delay) (decay : Bool) :
    m.completes (.step decay) = true := by
  obtain ⟨hpc, hreads⟩ := h
  have hrun : m.Runnable m.peek := runnable_of_isMisc hreads (by decide)
  have hwaits : m.waitsOn m.peek = false := by
    simp only [waitsOn, hreads.2]
    simp
  simp only [completes, (Stepped.running hpc hrun hwaits).eq]

/-- A step does the same off the timers whether it is asked to count them down or not. -/
theorem sameOutcome_step_decay (m : Machine) (decay decay' : Bool) :
    SameOutcome timers (m.step decay) (m.step decay') := by
  have hstep := m.step_stepped decay
  generalize m.step decay = outcome at hstep
  cases hstep with
  | outside hpc =>
    rw [(Stepped.outside hpc).eq]
    exact .error _
  | refused hpc hcheck =>
    rw [(Stepped.refused hpc hcheck).eq]
    exact .error _
  | waiting hpc hrun hwaits =>
    rw [(Stepped.waiting hpc hrun hwaits).eq]
    exact .ok (AgreeOff.refl timers m) false
  | running hpc hrun hwaits =>
    rw [(Stepped.running hpc hrun hwaits).eq]
    exact .ok (agreeOff_tickIf _ decay decay') true

theorem AgreeOff.step_decay (h : AgreeOff timers m m') (hread : ¬ m.FetchesReader .delay)
    (decay decay' : Bool) : SameOutcome timers (m.step decay) (m'.step decay') := by
  have hsame : SameOutcome timers (m.step decay) (m'.step decay) := by
    apply h.step isRim_of_mem_timers
    intro p hp
    rcases List.mem_pair.1 hp with rfl | rfl
    · exact hread
    · exact fun hsound => hsound.2
  exact hsame.trans (sameOutcome_step_decay m' decay decay')

end Machine

namespace Run

open Machine (AgreeOff timers)

/-! ### Runs in two modes -/

/-- Two results of runs that say the same: one error, or one count and machines that agree. -/
inductive SameResult (hidden : List Part) :
    Except Error (Machine × Nat) → Except Error (Machine × Nat) → Prop where
  | error (e : Error) : SameResult hidden (.error e) (.error e)
  | ok {m m' : Machine} (hagree : AgreeOff hidden m m') (completed : Nat) :
    SameResult hidden (.ok (m, completed)) (.ok (m', completed))

variable {mode mode' : TimerMode} {i n : Nat} {m m' : Machine}

theorem agreeOff_enter (h : AgreeOff timers m m') (mode mode' : TimerMode) (i : Nat) :
    AgreeOff timers (mode.enter i m) (mode'.enter i m') :=
  ((Machine.agreeOff_iterate_tick _ m).symm.trans h).trans (Machine.agreeOff_iterate_tick _ m')

/-- **Runs in two modes agree cycle by cycle**, as long as nothing reads the delay timer. -/
theorem cyclesFrom_agree (hproper : mode.Proper) (hproper' : mode'.Proper) (traced : Bool)
    (completed : Nat) (log : List Trace) (h : AgreeOff timers m m')
    (hread : ∀ x ∈ attempts mode i n m, ¬ x.FetchesReader .delay) :
    (cyclesFrom mode' traced n i completed log m').log =
        (cyclesFrom mode traced n i completed log m).log ∧
      SameResult timers (cyclesFrom mode traced n i completed log m).result
        (cyclesFrom mode' traced n i completed log m').result ∧
      List.Forall₂ (AgreeOff timers) (attempts mode i n m) (attempts mode' i n m') := by
  induction n generalizing i completed log m m' with
  | zero => exact ⟨rfl, .ok h completed, .nil⟩
  | succ n ih =>
    have hagree := agreeOff_enter h mode mode' i
    simp only [cyclesFrom, attempts, TimerMode.atCycle_eq hproper, TimerMode.atCycle_eq hproper',
      List.forall₂_cons, hagree.trace_eq] at hread ⊢
    have hstep := hagree.step_decay (hread _ (List.mem_cons_self ..)) mode.decays mode'.decays
    generalize (mode.enter i m).step mode.decays = outcome,
      (mode'.enter i m').step mode'.decays = outcome' at hread hstep
    cases hstep with
    | error e => exact ⟨rfl, .error e, hagree, .nil⟩
    | @ok k k' hagree' b =>
      obtain ⟨hlog, hresult, hattempts⟩ := ih (completed + b.toNat) _ hagree' fun x hx =>
        hread x (List.mem_cons_of_mem _ hx)
      exact ⟨hlog, hresult, hagree, hattempts⟩

/-- **The timer mode is invisible to a program that does not read the delay timer.**  If a headless
    run completes no word that reads it, a run in any other mode traces the same, ends with the
    same error or with the same count and a machine that differs in the timers only, and has made
    as many attempts, each in a machine that differs in the timers only. -/
theorem cycles_mode_invisible (mode mode' : TimerMode) (hproper : mode.Proper)
    (hproper' : mode'.Proper) (traced : Bool) (n : Nat) (m : Machine)
    (hread : (n : Int) < countLimit → ∀ x ∈ attempts mode 0 n m,
      x.completes (.step mode.decays) = true → ¬ (Opcode.ofWord x.peek).IsMisc 0x07) :
    (cycles mode' traced n m).log = (cycles mode traced n m).log ∧
    SameResult timers (cycles mode traced n m).result (cycles mode' traced n m).result ∧
    ((n : Int) < countLimit →
      List.Forall₂ (AgreeOff timers) (attempts mode 0 n m) (attempts mode' 0 n m)) := by
  by_cases hcount : (n : Int) < countLimit
  · rw [cycles_of_lt hcount, cycles_of_lt hcount, Int.toNat_natCast]
    obtain ⟨hlog, hresult, hattempts⟩ :=
      cyclesFrom_agree hproper hproper' traced 0 [] (AgreeOff.refl timers m) fun x hx hreads =>
        hread hcount x hx (Machine.completes_of_fetchesReader hreads _) hreads.2
    exact ⟨hlog, hresult, fun _ => hattempts⟩
  · rw [cycles, cycles, if_pos (Int.not_lt.1 hcount), if_pos (Int.not_lt.1 hcount)]
    exact ⟨rfl, .error _, fun hlt => absurd hlt hcount⟩

/-- A program sets the delay to 9 and jumps to itself.  Five cycles later the timer stands at 5 if
    it follows instructions, at 7 in frames of two cycles; nothing else tells the modes apart. -/
theorem cycles_mode_invisible_of_jump :
    let m : Machine :=
      { Machine.initial ⟨0, 0⟩ with
        memory := Cells.writeAll Memory.withFont 0x200 [0x60, 0x09, 0xF0, 0x15, 0x12, 0x04] }
    ∃ mc mf, (cycles .perInstruction true (5 : Nat) m).result = .ok (mc, 5) ∧
      (cycles (.perFrame 2) true (5 : Nat) m).result = .ok (mf, 5) ∧
      AgreeOff timers mc mf ∧ mc.delay = 5 ∧ mf.delay = 7 := by
  intro m
  have hproper : (TimerMode.perFrame 2).Proper := by
    change (1 : Int) ≤ 2
    decide
  obtain ⟨hresult, hresult', hcount⟩ :
      (cycles .perInstruction true (5 : Nat) m).result.map (fun r => (r.1.delay, r.2)) =
        .ok (5, 5) ∧
      (cycles (.perFrame 2) true (5 : Nat) m).result.map (fun r => (r.1.delay, r.2)) =
        .ok (7, 5) ∧
      (attempts .perInstruction 0 5 m).countP
        (fun x => decide ((Opcode.ofWord x.peek).IsMisc 0x07)) = 0 := by
    decide +kernel
  have hread : ∀ x ∈ attempts .perInstruction 0 5 m, ¬ (Opcode.ofWord x.peek).IsMisc 0x07 := by
    simpa [List.countP_eq_zero] using hcount
  obtain ⟨-, hsame, -⟩ :=
    cycles_mode_invisible .perInstruction (.perFrame 2) trivial hproper true 5 m
      fun _ x hx _ => hread x hx
  generalize (cycles .perInstruction true (5 : Nat) m).result = r,
    (cycles (.perFrame 2) true (5 : Nat) m).result = r' at hresult hresult' hsame
  cases hsame with
  | error e => cases hresult
  | @ok mc mf hagree completed =>
    obtain ⟨hmc, rfl⟩ := Prod.mk.inj (Except.ok.inj hresult)
    obtain ⟨hmf, -⟩ := Prod.mk.inj (Except.ok.inj hresult')
    exact ⟨mc, mf, rfl, rfl, hagree, hmc, hmf⟩

end Run

end Chip8
