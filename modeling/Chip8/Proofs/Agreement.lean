/-
  Chip8/Proofs/Agreement.lean
  ===========================
  **The window and the headless loop agree** — with nothing but quiet polls, a session in
  a window attempts the same steps in the same machines as the flat loop over cycles.

  Between two polls a running session stands at the first cycle of a frame, and the flat
  loop, from the same machine on, has the same result (`InStep`).  A burst keeps this by
  induction over its attempts: while the frame is not full the flat loop does not tick
  (`atCycle_of_fills`), and a burst that ends early ends the frame only where the flat
  loop does not count frames.  The machines differ in the mark of a drawn screen, which
  only the window wipes and no instruction reads.
-/
import Chip8.Proofs.Cycles
import Chip8.Proofs.Hiding
import Chip8.Proofs.Turns

namespace Chip8

/-! ### Smooth runs -/

theorem Settings.mode_proper {c : Settings} (hc : c.Valid) : c.mode.Proper := by
  rcases c.mode_cases with h | h
  · rw [h]
    trivial
  · rw [h]
    exact hc.cyclesPerFrame_pos

namespace Run

/-- Waiting for a key cannot shift a frame: there are no frames, each has one cycle, or
    none of the attempts waits. -/
def Smooth (mode : TimerMode) (i n : Nat) (m : Machine) : Prop :=
  mode = .perInstruction ∨ mode = .perFrame 1 ∨ ∀ x ∈ attempts mode i n m, x.isWaiting = false

variable {mode : TimerMode} {i n : Nat} {m m' : Machine} {a : Attempt}

theorem Smooth.next (h : Smooth mode i (n + 1) m) (hcycle : mode.atCycle i m = .ok m')
    (hstep : m'.step mode.decays = .ok a) : Smooth mode (i + 1) n a.machine := by
  rcases h with h | h | h
  · exact Or.inl h
  · exact Or.inr (Or.inl h)
  · refine Or.inr (Or.inr fun x hx => h x ?_)
    rw [attempts_succ hcycle hstep]
    exact List.mem_cons_of_mem _ hx

/-- After an attempt that waited, a new frame begins. -/
theorem Smooth.begins_of_waiting (h : Smooth mode i (n + 1) m) (hcycle : mode.atCycle i m = .ok m')
    (hstep : m'.step mode.decays = .ok a) (hwaiting : a.completed = false) :
    mode.Begins (i + 1) := by
  rcases h with rfl | rfl | h
  · trivial
  · exact Int.emod_one _
  · have hnot : m'.isWaiting = false := h m' (by
      rw [attempts_succ hcycle hstep]
      exact List.mem_cons_self ..)
    rw [Machine.completed_eq_not_isWaiting hstep, hnot] at hwaiting
    cases hwaiting

end Run

/-! ### The mark of a drawn screen -/

namespace Machine

/-- The machines differ at most in the mark of a drawn screen. -/
def AgreeButDirty : Machine → Machine → Prop := AgreeOff [.dirty]

variable {m m' : Machine}

theorem AgreeButDirty.step (h : AgreeButDirty m m') (decay : Bool) :
    SameOutcome [.dirty] (m.step decay) (m'.step decay) := by
  refine AgreeOff.step ?_ h ?_ decay
  · intro p hp
    rw [List.mem_singleton.1 hp]
    trivial
  · intro p hp hread
    rw [List.mem_singleton.1 hp] at hread
    exact hread.2

theorem AgreeButDirty.wipe (h : AgreeButDirty m m') (b : Bool) :
    AgreeButDirty { m with dirty := b } m' := by
  intro p hp
  cases p with
  | dirty => exact absurd (List.mem_singleton_self _) hp
  | _ => exact h _ hp

theorem AgreeButDirty.eq (h : AgreeButDirty m m') : m' = { m with dirty := m'.dirty } := by
  refine Part.eq_of_agrees fun p => ?_
  by_cases hp : p = .dirty
  · subst hp
    rfl
  · have hpart := h p fun hin => hp (List.mem_singleton.1 hin)
    cases p with
    | dirty => exact absurd rfl hp
    | _ => exact hpart

end Machine

namespace Window

open Machine (AgreeButDirty SameOutcome)

variable {host : Host} {c : Settings} {colours : Scheme} {limit : Nat} {goal : Except Error Machine}

/-! ### In step -/

/-- From machine `h` before cycle `i` on, the flat loop has `goal` for a result. -/
structure Ahead (c : Settings) (limit : Nat) (goal : Except Error Machine) (i : Nat)
    (h : Machine) : Prop where
  lt : i < limit
  rest : Run.after c.mode i (limit - i) h = goal
  smooth : Run.Smooth c.mode i (limit - i) h

namespace Ahead

variable {i : Nat} {h h' : Machine} {a : Attempt}

theorem error (hahead : Ahead c limit goal i h) (hcycle : c.mode.atCycle i h = .ok h') {e : Error}
    (hstep : h'.step c.mode.decays = .error e) : goal = .error e := by
  obtain ⟨hlt, hrest, -⟩ := hahead
  obtain ⟨n, hn⟩ := Nat.exists_eq_add_of_lt hlt
  rw [← hrest, show limit - i = n + 1 by omega]
  exact Run.after_succ_of_error hcycle hstep

theorem last (hahead : Ahead c limit goal i h) (hcycle : c.mode.atCycle i h = .ok h')
    (hstep : h'.step c.mode.decays = .ok a) (hlast : i + 1 = limit) : goal = .ok a.machine := by
  rw [← hahead.rest, show limit - i = 0 + 1 by omega]
  exact Run.after_succ hcycle hstep

theorem next (hahead : Ahead c limit goal i h) (hcycle : c.mode.atCycle i h = .ok h')
    (hstep : h'.step c.mode.decays = .ok a) (hlt : i + 1 < limit) :
    Ahead c limit goal (i + 1) a.machine := by
  obtain ⟨-, hrest, hsmooth⟩ := hahead
  have hn : limit - i = limit - (i + 1) + 1 := by omega
  rw [hn] at hrest hsmooth
  exact ⟨hlt, (Run.after_succ hcycle hstep).symm.trans hrest, hsmooth.next hcycle hstep⟩

theorem begins_of_waiting (hahead : Ahead c limit goal i h) (hcycle : c.mode.atCycle i h = .ok h')
    (hstep : h'.step c.mode.decays = .ok a) (hwaiting : a.completed = false) :
    c.mode.Begins (i + 1) := by
  obtain ⟨hlt, -, hsmooth⟩ := hahead
  obtain ⟨n, hn⟩ := Nat.exists_eq_add_of_lt hlt
  rw [show limit - i = n + 1 by omega] at hsmooth
  exact hsmooth.begins_of_waiting hcycle hstep hwaiting

end Ahead

/-- A session that is on the way to `goal`, or has come there in as many cycles as the limit
    is, or could not show a picture. -/
def InStep (host : Host) (c : Settings) (limit : Nat) (goal : Except Error Machine) (s : Session) :
    Prop :=
  match s.status with
  | .running =>
    c.mode.Begins s.cycles ∧ s.polls ≤ s.cycles ∧
      ∃ h, AgreeButDirty s.machine h ∧ Ahead c limit goal s.cycles h
  | .stopped => s.cycles = limit ∧ ∃ h, AgreeButDirty s.machine h ∧ goal = .ok h
  | .failed e => goal = .error e ∨ pictureRefusal? host c = some e

theorem inStep_of_running {s : Session} (hs : s.status = .running) :
    InStep host c limit goal s ↔ c.mode.Begins s.cycles ∧ s.polls ≤ s.cycles ∧
      ∃ h, AgreeButDirty s.machine h ∧ Ahead c limit goal s.cycles h := by
  simp only [InStep, hs]

theorem limitReached_iff (hlimit : c.maxCycles = limit) (hpos : 0 < limit) (cycles : Nat) :
    Session.limitReached c cycles = true ↔ limit ≤ cycles := by
  have hne : (limit : Int) ≠ 0 := by omega
  simp only [Session.limitReached, hlimit, decide_eq_true_eq]
  constructor
  · intro h
    exact Int.ofNat_le.1 h.2
  · intro h
    exact ⟨hne, Int.ofNat_le.2 h⟩

section Limited

variable (hlimit : c.maxCycles = limit) (hpos : 0 < limit)
include hlimit hpos

/-- The first attempt of a burst keeps in step if what comes after it does. -/
theorem inStep_attempt {n : Nat} {s : Session} {h₀ h : Machine} (hs : s.status = .running)
    (hahead : Ahead c limit goal s.cycles h₀) (hcycle : c.mode.atCycle s.cycles h₀ = .ok h)
    (hagree : AgreeButDirty s.machine h) (hpolls : s.polls ≤ s.cycles + 1)
    (hrest : ∀ m' h', AgreeButDirty m' h' → Ahead c limit goal (s.cycles + 1) h' →
      InStep host c limit goal ((s.attempted c m').burst c n)) :
    InStep host c limit goal (s.burst c (n + 1)) := by
  have hreached := limitReached_iff hlimit hpos (s.cycles + 1)
  have hstep := hagree.step c.mode.decays
  have hburst := Session.burst_bursts c n s
  generalize hflat : h.step c.mode.decays = outcome at hstep
  generalize s.attempts c (n + 1) = xs, s.burst c (n + 1) = s' at hburst
  cases hburst with
  | @failed e hfail =>
    rw [hfail] at hstep
    cases hstep
    exact Or.inl (hahead.error hcycle hflat)
  | @limited a hok hlimited =>
    rw [hok] at hstep
    cases hstep with
    | ok hagree' completed =>
      have hle := hreached.1 hlimited
      have hlt := hahead.lt
      have hlast : s.cycles + 1 = limit := by omega
      exact ⟨hlast, _, hagree', hahead.last hcycle hflat hlast⟩
  | @waiting m' hok hlimited =>
    rw [hok] at hstep
    cases hstep with
    | ok hagree' completed =>
      have hlt : s.cycles + 1 < limit := Nat.lt_of_not_le fun hle => by simp [hreached.2 hle] at hlimited
      have hrunning := (Session.status_attempted c s m').trans hs
      refine (inStep_of_running hrunning).2 ⟨?_, ?_, _, hagree', hahead.next hcycle hflat hlt⟩
      · exact hahead.begins_of_waiting hcycle hflat rfl
      · rwa [Session.polls_attempted]
  | @completed m' hok hlimited =>
    rw [hok] at hstep
    cases hstep with
    | ok hagree' completed =>
      have hlt : s.cycles + 1 < limit := Nat.lt_of_not_le fun hle => by simp [hreached.2 hle] at hlimited
      exact hrest _ _ hagree' (hahead.next hcycle hflat hlt)

/-- A burst that fills a frame keeps in step with the flat loop. -/
theorem inStep_burst (hproper : c.mode.Proper) {n : Nat} {s : Session} {h₀ h : Machine}
    (hs : s.status = .running) (hahead : Ahead c limit goal s.cycles h₀)
    (hcycle : c.mode.atCycle s.cycles h₀ = .ok h) (hagree : AgreeButDirty s.machine h)
    (hfills : c.mode.Fills s.cycles (n + 1)) (hpolls : s.polls ≤ s.cycles + 1) :
    InStep host c limit goal (s.burst c (n + 1)) := by
  induction n generalizing s h₀ h with
  | zero =>
    refine inStep_attempt hlimit hpos hs hahead hcycle hagree hpolls ?_
    intro m' h' hagree' hahead'
    have hrunning := (Session.status_attempted c s m').trans hs
    refine (inStep_of_running hrunning).2 ⟨hfills.next.begins, ?_, h', hagree', hahead'⟩
    rwa [Session.polls_attempted]
  | succ n ih =>
    refine inStep_attempt hlimit hpos hs hahead hcycle hagree hpolls ?_
    intro m' h' hagree' hahead'
    have hrunning := (Session.status_attempted c s m').trans hs
    refine ih hrunning hahead' (TimerMode.atCycle_of_fills hproper hfills h') hagree' hfills.next ?_
    rw [Session.polls_attempted]
    exact Nat.le_succ_of_le hpolls

end Limited

/-- Being in step does not depend on the pictures shown, nor on their mark being wiped. -/
theorem InStep.wipe {s : Session} (h : InStep host c limit goal s) (b : Bool)
    (frames : List Frame) :
    InStep host c limit goal
      { s with machine := { s.machine with dirty := b }, frames := frames } := by
  obtain ⟨machine, status, cycles, polls, frames', log⟩ := s
  cases status with
  | running =>
    obtain ⟨hbegins, hpolls, h', hagree, hahead⟩ := h
    exact ⟨hbegins, hpolls, h', hagree.wipe b, hahead⟩
  | stopped =>
    obtain ⟨hcycles, h', hagree, hgoal⟩ := h
    exact ⟨hcycles, h', hagree.wipe b, hgoal⟩
  | failed e => exact h

theorem InStep.present {s : Session} (hscale : 1 ≤ c.scale) (hcolours : colours ∈ Scheme.all)
    (h : InStep host c limit goal s) : InStep host c limit goal (s.present host c colours) := by
  have hpresent := Session.present_presents host hscale hcolours s
  generalize s.present host c colours = s' at hpresent
  cases hpresent with
  | clean => exact h
  | refused _ hrefusal => exact Or.inr hrefusal
  | shown => exact h.wipe _ _

section Script

variable (hc : c.Valid) (hlimit : c.maxCycles = limit) (hpos : 0 < limit)
include hc hlimit hpos

/-- A turn with a quiet poll keeps in step with the flat loop. -/
theorem inStep_turn (hopen : Opens host c colours) {s : Session} {events : Poll}
    (hs : s.status = .running) (hquiet : ∀ e ∈ events, e.Quiet) (h : InStep host c limit goal s) :
    InStep host c limit goal (s.turn host c colours events) := by
  have hproper := Settings.mode_proper hc
  obtain ⟨hbegins, hpolls, h₀, hagree, hahead⟩ := (inStep_of_running hs).1 h
  obtain ⟨n, hn, hframe⟩ := hc.exists_cyclesPerFrame
  have hfills : c.mode.Fills s.cycles (n + 1) := by
    refine hbegins.fills ?_
    rw [← hframe]
    exact c.mode_cases.symm
  have hburst : InStep host c limit goal
      (({ s with polls := s.polls + 1 } : Session).beat c |>.burst c (n + 1)) :=
    inStep_burst hlimit hpos hproper hs hahead (TimerMode.atCycle_of_begins hproper hbegins h₀)
      (Machine.AgreeOff.tickIf hagree _) hfills (Nat.succ_le_succ hpolls)
  rw [Session.turn_of_not_stops hopen.paceRefusal?_eq hs (Event.any_stops_of_quiet hquiet),
    Session.poll_of_quiet hs hquiet, Session.play, hn]
  split
  · exact hburst
  · exact hburst.present hc.scale_pos hopen.mem_all

theorem inStep_after (hopen : Opens host c colours) {script : List Poll} {m : Machine} {p : Nat}
    (hquiet : ∀ events ∈ (polls script).take limit, ∀ e ∈ events, e.Quiet)
    (hsmooth : Run.Smooth c.mode 0 limit m) (hp : p ≤ limit) (hlength : limit ≤ script.length) :
    InStep host c limit (Run.after c.mode 0 limit m) (after host c script m p) := by
  induction p with
  | zero =>
    rw [after_zero hopen]
    refine (inStep_of_running rfl).2
      ⟨?_, Nat.le_refl 0, m, Machine.AgreeOff.refl _ m, hpos, rfl, hsmooth⟩
    cases c.mode with
    | perInstruction => trivial
    | perFrame k => exact Int.zero_emod k
  | succ p ih =>
    obtain ⟨events, hevents⟩ := exists_poll (show p < script.length + 1 by omega)
    have hmem : events ∈ (polls script).take limit := by
      refine List.mem_of_getElem? (i := p) ?_
      rwa [List.getElem?_take_of_lt (by omega)]
    have hin := ih (by omega)
    rw [after_succ hopen hevents]
    by_cases hs : (after host c script m p).status = .running
    · exact inStep_turn hc hlimit hpos hopen hs (hquiet _ hmem) hin
    · rwa [Session.turn_of_not_running hs]

end Script

/-- The poll that asks to quit is not among quiet ones. -/
theorem le_length_of_quiet {script : List Poll} {n : Nat}
    (h : ∀ events ∈ (polls script).take n, ∀ e ∈ events, e.Quiet) : n ≤ script.length := by
  refine Nat.le_of_not_lt fun hlt => ?_
  have hall : (polls script).take n = polls script :=
    List.take_of_length_le (by rw [length_polls]; exact hlt)
  have hquit : [Event.quit] ∈ (polls script).take n := by
    rw [hall]
    exact List.mem_append_right _ (List.mem_singleton_self _)
  have hstops := (h _ hquit _ (List.mem_singleton_self _)).1
  cases hstops

theorem smooth_of_settings {n : Nat} {m : Machine}
    (h : c.timerMode = TimerMode.instructionName ∨ c.cyclesPerFrame = 1 ∨
      ∀ x ∈ Run.attempts c.mode 0 n m, x.isWaiting = false) : Run.Smooth c.mode 0 n m := by
  rcases h with hname | hone | hnone
  · exact Or.inl (by rw [Settings.mode, TimerMode.ofName, if_pos hname])
  · rcases c.mode_cases with hmode | hmode
    · exact Or.inl hmode
    · exact Or.inr (Or.inl (hone ▸ hmode))
  · exact Or.inr (Or.inr hnone)

/-- A session that is in step ends with what the flat loop reaches, unless it could not show a
    picture. -/
theorem InStep.result {s : Session} (h : InStep host c limit goal s) (hs : s.status ≠ .running) :
    (∃ e, pictureRefusal? host c = some e ∧ s.result = .error e) ∨
    (∃ e, s.result = .error e ∧ goal = .error e) ∨
    ∃ mw mh, s.result = .ok (mw, limit) ∧ goal = .ok mh ∧ mh = { mw with dirty := mh.dirty } := by
  obtain ⟨machine, status, cycles, polls, frames, log⟩ := s
  cases status with
  | running => exact absurd rfl hs
  | stopped =>
    obtain ⟨rfl, mh, hagree, hgoal⟩ := h
    exact Or.inr (Or.inr ⟨machine, mh, rfl, hgoal, hagree.eq⟩)
  | failed e =>
    rcases h with hgoal | hpicture
    · exact Or.inr (Or.inl ⟨e, rfl, hgoal⟩)
    · exact Or.inl ⟨e, hpicture, rfl⟩

/-- **The window and the headless loop agree.**  Over quiet polls, and where waiting for a key
    cannot shift a frame, a run in a window ends with the error of the headless loop, or with its
    machine up to the mark of a drawn screen: the window counts all cycles, the headless loop
    those that did not wait.  The one exception is a window, a rate or a picture that the host
    refuses, which then ends the run. -/
theorem run_agrees_with_cycles (host : Host) (c : Settings) (script : List Poll) (m : Machine)
    (traced : Bool) (hc : c.Valid) (hpos : 0 < c.maxCycles) (hcount : c.maxCycles < Run.countLimit)
    (hquiet : ∀ events ∈ (polls script).take c.maxCycles.toNat, ∀ e ∈ events, e.Quiet)
    (hsmooth : c.timerMode = TimerMode.instructionName ∨ c.cyclesPerFrame = 1 ∨
      ∀ x ∈ Run.attempts c.mode 0 c.maxCycles.toNat m, x.isWaiting = false) :
    (∃ e, Refuses host c e ∧ (run host c script m).result = .error e) ∨
    (∃ e, (run host c script m).result = .error e ∧
      (Run.cycles c.mode traced c.maxCycles m).result = .error e) ∨
    ∃ mw mh, (run host c script m).result = .ok (mw, c.maxCycles.toNat) ∧
      (Run.cycles c.mode traced c.maxCycles m).result =
        .ok (mh, c.maxCycles.toNat -
          (Run.attempts c.mode 0 c.maxCycles.toNat m).countP Machine.isWaiting) ∧
      mh = { mw with dirty := mh.dirty } := by
  obtain ⟨limit, hlimit⟩ := Int.eq_ofNat_of_zero_le hc.maxCycles_nonneg
  have hflat : (Run.cycles c.mode traced c.maxCycles m).result = _ :=
    Run.result_cycles hcount traced
  rw [show c.maxCycles.toNat = limit by omega] at hquiet hsmooth hflat ⊢
  have hpos : 0 < limit := by omega
  have hlength := le_length_of_quiet hquiet
  rcases opens_or_refused host hc with ⟨colours, hopen⟩ | ⟨e, hrefuses, hrun⟩
  case inr =>
    refine Or.inl ⟨e, hrefuses, ?_⟩
    rw [hrun]
    rfl
  have hin := inStep_after hc hlimit hpos hopen hquiet (smooth_of_settings hsmooth)
    (Nat.le_refl limit) hlength
  -- each turn has a cycle at least, so the limit is reached within as many polls
  have hended : (after host c script m limit).status ≠ .running := by
    intro hs
    obtain ⟨-, hpolls, h, -, hahead⟩ := (inStep_of_running hs).1 hin
    rw [polls_after hopen (by omega) hs] at hpolls
    exact absurd hahead.lt (Nat.not_lt.2 hpolls)
  rw [run_eq_after, after_of_not_running hopen hended (by omega)]
  rcases hin.result hended with ⟨e, hpicture, hw⟩ | ⟨e, hw, hgoal⟩ | ⟨mw, mh, hw, hgoal, hsame⟩
  · exact Or.inl ⟨e, .picture hpicture, hw⟩
  · refine Or.inr (Or.inl ⟨e, hw, ?_⟩)
    rw [hflat, hgoal]
    rfl
  · refine Or.inr (Or.inr ⟨mw, mh, hw, ?_, hsame⟩)
    rw [hflat, hgoal, Run.countP_not_isWaiting hgoal]
    rfl

/-- In frames of two cycles, and with an event that means nothing: the jump to itself never
    waits, and both loops go round it three times. -/
theorem run_agrees_with_cycles_of_jump :
    let c : Settings := { timerMode := "frame", cyclesPerFrame := 2, maxCycles := 3 }
    let m : Machine :=
      { Machine.initial ⟨0, 0⟩ with memory := Cells.writeAll Memory.withFont 0x200 [0x12, 0x00] }
    ∃ mw mh, (run usualHost c [[.other], [], []] m).result = .ok (mw, 3) ∧
      (Run.cycles c.mode false c.maxCycles m).result = .ok (mh, 3) ∧
      mh = { mw with dirty := mh.dirty } := by
  intro c m
  have hvalid : c.Valid := (Settings.complaint?_eq_none_iff c).1 (by decide)
  have hquiet : ∀ events ∈ (polls [[.other], [], []]).take 3, ∀ e ∈ events, e.Quiet := by
    simp [polls, Event.Quiet, Event.stops, Event.key?]
  have hcount : (Run.attempts c.mode 0 3 m).countP Machine.isWaiting = 0 := by decide +kernel
  have hsmooth : ∀ x ∈ Run.attempts c.mode 0 3 m, x.isWaiting = false := by
    simpa [List.countP_eq_zero] using hcount
  have hok : (run usualHost c [[.other], [], []] m).result.isOk = true := by decide +kernel
  rcases run_agrees_with_cycles usualHost c [[.other], [], []] m false hvalid (by decide)
    (by decide) hquiet (Or.inr (Or.inr hsmooth)) with
    ⟨e, -, herror⟩ | ⟨e, herror, -⟩ | ⟨mw, mh, hw, hh, hsame⟩
  · rw [herror] at hok
    cases hok
  · rw [herror] at hok
    cases hok
  · refine ⟨mw, mh, hw, ?_, hsame⟩
    rwa [show c.maxCycles.toNat = 3 from rfl, hcount] at hh

/-- A step that fails in the first turn of a run is all there is to it. -/
theorem result_run_of_step_eq_error (hc : c.Valid) (hopen : Opens host c colours) {m : Machine}
    {e : Error} (hmode : c.mode = .perInstruction) (hstep : m.step true = .error e)
    (script : List Poll) : (run host c ([] :: script) m).result = .error e := by
  obtain ⟨n, hn, -⟩ := hc.exists_cyclesPerFrame
  have hfirst : (after host c ([] :: script) m 1).result = .error e ∧
      (after host c ([] :: script) m 1).status ≠ .running := by
    have hevents : (polls ([] :: script))[0]? = some [] := rfl
    have hquiet : ∀ e ∈ ([] : Poll), e.Quiet := fun e he => absurd he List.not_mem_nil
    have hmachine : (({ machine := m, polls := 1 } : Session).beat c).machine = m := by
      rw [Session.beat, hmode]
      rfl
    rw [after_succ hopen hevents, after_zero hopen,
      Session.turn_of_not_stops hopen.paceRefusal?_eq rfl rfl,
      Session.poll_of_quiet rfl hquiet, Session.play, hn]
    have hburst := Session.burst_bursts c n (({ machine := m, polls := 1 } : Session).beat c)
    simp only [Nat.zero_add]
    generalize (({ machine := m, polls := 1 } : Session).beat c).attempts c (n + 1) = xs,
      (({ machine := m, polls := 1 } : Session).beat c).burst c (n + 1) = s at hburst ⊢
    cases hburst with
    | failed hfail =>
      rw [hmachine, hmode] at hfail
      cases hstep.symm.trans hfail
      exact ⟨rfl, fun h => by cases h⟩
    | limited hok | waiting hok | completed hok =>
      rw [hmachine, hmode] at hok
      cases hstep.symm.trans hok
  rw [run_eq_after, after_of_not_running hopen hfirst.2 (Nat.le_add_left ..)]
  exact hfirst.1

/-- **Limits of the agreement.**  A window of 2.56 billion pixels a side cannot be opened, and
    2¹⁰²⁴ pictures per second cannot be waited for, where the headless loop runs; and more cycles
    than can be counted are refused by the headless loop, where the window runs into an unknown
    word. -/
theorem run_disagrees_with_cycles :
    let wide : Settings := { scale := 40000000, maxCycles := 1 }
    let fast : Settings := { fps := Nat.pow 2 1024, maxCycles := 1 }
    let long : Settings := { maxCycles := 0x8000000000000000 }
    let jump : Machine :=
      { Machine.initial ⟨0, 0⟩ with memory := Cells.writeAll Memory.withFont 0x200 [0x12, 0x00] }
    let script : List Poll := List.replicate 0x8000000000000000 []
    (wide.Valid ∧ (run usualHost wide [[]] jump).result = .error (.refused ⟨"error"⟩) ∧
      (Run.cycles wide.mode false wide.maxCycles jump).result.isOk = true) ∧
    (fast.Valid ∧ (run usualHost fast [[]] jump).result = .error (.refused ⟨"OverflowError"⟩) ∧
      (Run.cycles fast.mode false fast.maxCycles jump).result.isOk = true) ∧
    (long.Valid ∧
      (∀ events ∈ (polls script).take long.maxCycles.toNat, ∀ e ∈ events, e.Quiet) ∧
      (run usualHost long script (Machine.initial ⟨0, 0⟩)).result =
        .error (.unknownOpcode 0 0x200) ∧
      (Run.cycles long.mode false long.maxCycles (Machine.initial ⟨0, 0⟩)).result =
        .error .countOutOfRange) := by
  intro wide fast long jump script
  have hwide : wide.Valid := (Settings.complaint?_eq_none_iff wide).1 (by decide)
  have hfast : fast.Valid := (Settings.complaint?_eq_none_iff fast).1 (by decide +kernel)
  have hlong : long.Valid := (Settings.complaint?_eq_none_iff long).1 (by decide)
  have hstep : (Machine.initial ⟨0, 0⟩).step true = .error (.unknownOpcode 0 0x200) := by
    have hpeek : (Machine.initial ⟨0, 0⟩).peek = 0 := by decide +kernel
    rw [Machine.step_eq_error_iff (by decide), hpeek, Machine.check_eq_error_iff]
    exact Or.inl ⟨by decide, rfl⟩
  obtain ⟨colours, hopen⟩ : ∃ colours, Opens usualHost long colours := by
    have hgoes : GoesOn usualHost long [] jump 0 := by decide +kernel
    exact hgoes.exists_opens
  refine ⟨⟨hwide, ?_, by decide +kernel⟩, ⟨hfast, ?_, by decide +kernel⟩, hlong, ?_, ?_, rfl⟩
  · rw [run_eq_after, after_of_refusal? (e := .refused ⟨"error"⟩) (by decide)]
    rfl
  · have hpace : usualHost.paceRefusal? fast.fps = some ⟨"OverflowError"⟩ := by decide +kernel
    rw [run_of_paceRefusal? hfast (by decide) hpace]
    rfl
  · intro events hevents e he
    have htake : (polls script).take long.maxCycles.toNat = script :=
      List.take_left' List.length_replicate
    rw [htake] at hevents
    rw [List.eq_of_mem_replicate hevents] at he
    cases he
  · exact result_run_of_step_eq_error hlong hopen rfl hstep (List.replicate 0x7FFFFFFFFFFFFFFF [])

end Window

end Chip8
