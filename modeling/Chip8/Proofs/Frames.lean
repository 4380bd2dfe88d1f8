/-
  Chip8/Proofs/Frames.lean
  ========================
  **A window shows what was drawn** — a turn ends with a picture just if one of its
  steps drew, and the picture is that of the screen after the last of them.

  No step changes the screen without marking it, and none wipes the mark; only showing
  the screen does.  So a session that still runs has a clean machine between two polls,
  and the last picture, or the first screen if there is none, is the screen
  (`Faithful`).  `Turned` says what one turn does; runs follow by induction over the
  polls.
-/
import Chip8.Proofs.Footprint
import Chip8.Proofs.Turns

namespace Chip8

/-! ### Words that draw -/

/-- The words that draw on the screen; to wipe it is to draw, too. -/
def Opcode.Draws (o : Opcode) : Prop := o.raw = 0x00E0 ∨ o.family = 0xD

namespace Machine

variable {m : Machine} {decay : Bool} {a : Attempt}

/-- A step in this machine completes a word that draws. -/
def Drew (m : Machine) (decay : Bool) : Prop :=
  (∃ m', m.step decay = .ok ⟨m', true⟩) ∧ (Opcode.ofWord m.peek).Draws

theorem dirty_ran_of_draws (h : (Opcode.ofWord m.peek).Draws) : (m.ran decay).dirty = true := by
  rw [ran, dirty_tickIf, execute]
  rcases h with hclear | hdraw
  · have hpeek : (m.peek : Int) = 0x00E0 := hclear
    have hword : Instruction.ofWord m.peek = .clear := by
      rw [hpeek]
      decide
    rw [hword]
    rfl
  · rw [Instruction.ofWord_of_draw hdraw]
    rfl

theorem dirty_of_drew (h : m.Drew decay) (hstep : m.step decay = .ok a) :
    a.machine.dirty = true := by
  obtain ⟨⟨m', hcompleted⟩, hdraws⟩ := h
  obtain ⟨-, -, -, rfl⟩ := step_eq_completed_iff.1 hcompleted
  cases hcompleted.symm.trans hstep
  exact dirty_ran_of_draws hdraws

/-- A step that does not draw leaves the screen and its mark alone. -/
theorem eq_of_not_drew (h : ¬ m.Drew decay) (hstep : m.step decay = .ok a) :
    a.machine.dirty = m.dirty ∧ a.machine.screen = m.screen := by
  obtain ⟨m', completed⟩ := a
  cases completed with
  | false =>
    obtain ⟨rfl, -⟩ := eq_of_step_eq_waiting hstep
    exact ⟨rfl, rfl⟩
  | true =>
    have hdraws : ¬ (Opcode.ofWord m.peek).Draws := fun hdraws => h ⟨⟨m', hstep⟩, hdraws⟩
    obtain ⟨-, -, -, rfl⟩ := step_eq_completed_iff.1 hstep
    have hdirty : Part.dirty.Agrees (m.tickIf decay) (m.ran decay) := ran_agrees hdraws
    have hscreen : Part.screen.Agrees (m.tickIf decay) (m.ran decay) := ran_agrees hdraws
    exact ⟨Eq.trans hdirty (dirty_tickIf m decay), Eq.trans hscreen (screen_tickIf m decay)⟩

end Machine

namespace Window

variable {host : Host} {c : Settings} {colours : Scheme} {s : Session} {events : Poll}

namespace Session

/-! ### Bursts -/

/-- A burst fails with the error of one of its attempts. -/
theorem failed_burst_iff (n : Nat) (hs : s.status = .running) {e : Error} :
    (s.burst c n).status = .failed e ↔
      ∃ x ∈ s.attempts c n, x.step c.mode.decays = .error e := by
  induction n generalizing s with
  | zero => simp [burst, attempts, hs]
  | succ n ih =>
    have hburst := burst_bursts c n s
    generalize s.attempts c (n + 1) = xs, s.burst c (n + 1) = s' at hburst
    cases hburst with
    | failed hstep => simp [fail, hstep, eq_comm]
    | limited hstep hlimit => simp [hstep]
    | waiting hstep hlimit => simp [hstep, attempted, hs]
    | @completed m hstep hlimit =>
      have hrunning := (status_attempted c s m).trans hs
      simp only [List.mem_cons, exists_eq_or_imp, hstep, reduceCtorEq, false_or]
      exact ih hrunning

theorem steps_of_not_failed (n : Nat) (hs : s.status = .running)
    (h : ∀ e, (s.burst c n).status ≠ .failed e) :
    ∀ x ∈ s.attempts c n, ∃ a, x.step c.mode.decays = .ok a := by
  intro x hx
  cases hstep : x.step c.mode.decays with
  | ok a => exact ⟨a, rfl⟩
  | error e => exact absurd ((failed_burst_iff n hs).2 ⟨x, hx, hstep⟩) (h e)

/-- A burst without a step that fails ends with the machine that its last attempt left, if it
    has attempts at all. -/
theorem last_attempt (n : Nat)
    (hsteps : ∀ x ∈ s.attempts c n, ∃ a, x.step c.mode.decays = .ok a) :
    (s.attempts c n).getLast? = none ∧ (s.burst c n).machine = s.machine ∨
    ∃ x a, (s.attempts c n).getLast? = some x ∧ x.step c.mode.decays = .ok a ∧
      (s.burst c n).machine = a.machine := by
  induction n generalizing s with
  | zero => exact Or.inl ⟨rfl, rfl⟩
  | succ n ih =>
    have hburst := burst_bursts c n s
    generalize s.attempts c (n + 1) = xs, s.burst c (n + 1) = s' at hburst hsteps ⊢
    cases hburst with
    | failed hstep =>
      obtain ⟨a, ha⟩ := hsteps _ (List.mem_singleton_self _)
      cases hstep.symm.trans ha
    | limited hstep | waiting hstep => exact Or.inr ⟨_, _, rfl, hstep, rfl⟩
    | completed hstep =>
      rcases ih fun x hx => hsteps x (List.mem_cons_of_mem _ hx) with
        ⟨hlast, hmachine⟩ | ⟨x, a, hlast, ha, hmachine⟩
      · exact Or.inr ⟨_, _, by rw [List.getLast?_cons, hlast]; rfl, hstep, hmachine⟩
      · exact Or.inr ⟨x, a, by rw [List.getLast?_cons, hlast]; rfl, ha, hmachine⟩

/-- In one of the machines a step drew. -/
def Drawn (c : Settings) (xs : List Machine) : Prop := ∃ x ∈ xs, x.Drew c.mode.decays

theorem drawn_cons (c : Settings) (x : Machine) (xs : List Machine) :
    Drawn c (x :: xs) ↔ x.Drew c.mode.decays ∨ Drawn c xs := by
  simp only [Drawn, List.mem_cons, exists_eq_or_imp]

theorem not_drawn_nil (c : Settings) : ¬ Drawn c [] := by
  rintro ⟨x, hx, -⟩
  cases hx

/-- A burst marks the screen if it drew on it, and leaves both alone otherwise. -/
theorem mark_burst (n : Nat) (hsteps : ∀ x ∈ s.attempts c n, ∃ a, x.step c.mode.decays = .ok a) :
    Drawn c (s.attempts c n) ∧ (s.burst c n).machine.dirty = true ∨
    ¬ Drawn c (s.attempts c n) ∧ (s.burst c n).machine.dirty = s.machine.dirty ∧
      (s.burst c n).machine.screen = s.machine.screen := by
  induction n generalizing s with
  | zero => exact Or.inr ⟨not_drawn_nil c, rfl, rfl⟩
  | succ n ih =>
    have hburst := burst_bursts c n s
    generalize s.attempts c (n + 1) = xs, s.burst c (n + 1) = s' at hburst hsteps ⊢
    cases hburst with
    | failed hstep =>
      obtain ⟨a, ha⟩ := hsteps _ (List.mem_singleton_self _)
      cases hstep.symm.trans ha
    | limited hstep | waiting hstep =>
      by_cases hdrew : s.machine.Drew c.mode.decays
      · exact Or.inl ⟨(drawn_cons c _ _).2 (Or.inl hdrew), Machine.dirty_of_drew hdrew hstep⟩
      · refine Or.inr ⟨fun h => ?_, Machine.eq_of_not_drew hdrew hstep⟩
        exact ((drawn_cons c _ _).1 h).elim hdrew (not_drawn_nil c)
    | completed hstep =>
      -- what the first step did to the mark is still there unless a later one drew, too
      rcases ih fun x hx => hsteps x (List.mem_cons_of_mem _ hx) with
        ⟨hdrawn, hdirty⟩ | ⟨hdrawn, hdirty, hscreen⟩
      · exact Or.inl ⟨(drawn_cons c _ _).2 (Or.inr hdrawn), hdirty⟩
      by_cases hdrew : s.machine.Drew c.mode.decays
      · exact Or.inl ⟨(drawn_cons c _ _).2 (Or.inl hdrew),
          hdirty.trans (Machine.dirty_of_drew hdrew hstep)⟩
      · obtain ⟨hdirty', hscreen'⟩ := Machine.eq_of_not_drew hdrew hstep
        refine Or.inr ⟨fun h => ?_, hdirty.trans hdirty', hscreen.trans hscreen'⟩
        exact ((drawn_cons c _ _).1 h).elim hdrew hdrawn

/-! ### Turns -/

/-- The machines that the step attempts of a turn are given. -/
def attemptsIn (c : Settings) (s : Session) (events : Poll) : List Machine :=
  ((s.poll events).beat c).attempts c c.cyclesPerFrame.toNat

/-- What a turn with a poll that does not stop the run makes of a running session with a
    clean machine. -/
inductive Turned (host : Host) (c : Settings) (colours : Scheme) (s : Session) (events : Poll)
    (s' : Session) : Prop where
  | failing {x : Machine} {e : Error} (hmem : x ∈ s.attemptsIn c events)
    (hstep : x.step c.mode.decays = .error e) (hstatus : s'.status = .failed e)
    (hframes : s'.frames = s.frames)
  | still (hdrawn : ¬ Drawn c (s.attemptsIn c events)) (hstatus : ∀ e, s'.status ≠ .failed e)
    (hframes : s'.frames = s.frames) (hdirty : s'.machine.dirty = false)
    (hscreen : s'.machine.screen = s.machine.screen)
  | refused {e : Error} (hdrawn : Drawn c (s.attemptsIn c events))
    (hrefusal : pictureRefusal? host c = some e) (hstatus : s'.status = .failed e)
    (hframes : s'.frames = s.frames)
  | shown {picture : Picture} (hdrawn : Drawn c (s.attemptsIn c events))
    (hrefusal : pictureRefusal? host c = none) (hstatus : ∀ e, s'.status ≠ .failed e)
    (hrender : Picture.render host s'.machine.screen.toList c.scale colours.on colours.off =
      .ok picture)
    (hframes : s'.frames = ⟨s.polls + 1, picture⟩ :: s.frames)
    (hdirty : s'.machine.dirty = false)

theorem turn_turned (hc : c.Valid) (hopen : Opens host c colours) (hs : s.status = .running)
    (hclean : s.machine.dirty = false) (hstops : events.any Event.stops = false) :
    Turned host c colours s events (s.turn host c colours events) := by
  obtain ⟨k, hk⟩ := poll_eq s events
  have hrunning : ((s.poll events).beat c).status = .running := by
    rw [hk, hstops]
    rfl
  have hdirty : ((s.poll events).beat c).machine.dirty = false := by
    rw [hk]
    exact (Machine.dirty_tickIf _ _).trans hclean
  have hscreen : ((s.poll events).beat c).machine.screen = s.machine.screen := by
    rw [hk]
    exact Machine.screen_tickIf _ _
  have hpolls : ((s.poll events).beat c).polls = s.polls + 1 := by
    rw [hk]
    rfl
  have hframes : ((s.poll events).beat c).frames = s.frames := by
    rw [hk]
    rfl
  have hattempts : s.attemptsIn c events =
      ((s.poll events).beat c).attempts c c.cyclesPerFrame.toNat := rfl
  rw [turn_of_not_stops hopen.paceRefusal?_eq hs hstops, play]
  generalize (s.poll events).beat c = t at *
  have hburst := frames_burst (c := c) c.cyclesPerFrame.toNat t
  split
  · next e hstatus =>
    obtain ⟨x, hmem, hstep⟩ := (failed_burst_iff _ hrunning).1 hstatus
    exact .failing (hattempts ▸ hmem) hstep hstatus (hburst.trans hframes)
  next hstatus =>
  have hmark := mark_burst _ (steps_of_not_failed _ hrunning hstatus)
  have hpresent := present_presents host hc.scale_pos hopen.mem_all
    (t.burst c c.cyclesPerFrame.toNat)
  rw [← hattempts] at hmark
  have hpolls' := (polls_burst (c := c) c.cyclesPerFrame.toNat t).trans hpolls
  generalize t.burst c c.cyclesPerFrame.toNat = b at *
  generalize b.present host c colours = s' at hpresent
  rcases hmark with ⟨hdrawn, hmarked⟩ | ⟨hdrawn, hmarked, hsame⟩
  · cases hpresent with
    | clean hwiped =>
      rw [hmarked] at hwiped
      cases hwiped
    | refused _ hrefusal => exact .refused hdrawn hrefusal rfl (hburst.trans hframes)
    | shown _ hrefusal hrender =>
      refine .shown hdrawn hrefusal hstatus hrender ?_ rfl
      rw [hpolls', hburst, hframes]
  · have hwiped : b.machine.dirty = false := hmarked.trans hdirty
    cases hpresent with
    | clean => exact .still hdrawn hstatus (hburst.trans hframes) hwiped (hsame.trans hscreen)
    | refused hmarked' | shown hmarked' =>
      rw [hwiped] at hmarked'
      cases hmarked'

theorem screen_present (host : Host) (c : Settings) (colours : Scheme) (s : Session) :
    (s.present host c colours).machine.screen = s.machine.screen := by
  obtain ⟨b, hb⟩ := machine_present host c colours s
  rw [hb]

/-- A turn without a step that fails ends with the screen that its last attempt left. -/
theorem exists_last_attemptIn (hc : c.Valid) (hpace : host.paceRefusal? c.fps = none)
    (hs : s.status = .running) (hstops : events.any Event.stops = false)
    (hsteps : ∀ x ∈ s.attemptsIn c events, ∃ a, x.step c.mode.decays = .ok a) :
    ∃ x a, (s.attemptsIn c events).getLast? = some x ∧ x.step c.mode.decays = .ok a ∧
      (s.turn host c colours events).machine.screen = a.machine.screen := by
  obtain ⟨n, hn, -⟩ := hc.exists_cyclesPerFrame
  rw [attemptsIn, hn] at hsteps ⊢
  rcases last_attempt (n + 1) hsteps with ⟨hnone, -⟩ | ⟨x, a, hlast, hstep, hmachine⟩
  · rw [List.getLast?_eq_none_iff] at hnone
    cases hnone
  refine ⟨x, a, hlast, hstep, ?_⟩
  rw [turn_of_not_stops hpace hs hstops, play, hn]
  split
  · rw [hmachine]
  · rw [screen_present, hmachine]

/-- The pictures shown after a poll. -/
def framesOf (s : Session) (p : Nat) : List Frame := s.frames.filter fun f => f.poll == p

end Session

/-! ### Runs -/

open Session (Drawn Turned)

/-- The picture is that of a screen, with the squares and in the colours of the settings. -/
def Shows (host : Host) (c : Settings) (picture : Picture) (screen : Screen) : Prop :=
  ∃ colours, Picture.scheme c.colorScheme = .ok colours ∧
    Picture.render host screen.toList c.scale colours.on colours.off = .ok picture

/-- The screen has no mark, and is the one in the last picture; without a picture, the first
    one. -/
def Faithful (host : Host) (c : Settings) (first : Screen) (s : Session) : Prop :=
  s.machine.dirty = false ∧
    match s.frames with
    | [] => s.machine.screen = first
    | f :: _ => Shows host c f.picture s.machine.screen

variable {script : List Poll} {m : Machine} {first : Screen} {p q : Nat}

section Opened

variable (hc : c.Valid) (hopen : Opens host c colours)
include hc hopen

theorem faithful_turn (hs : s.status = .running) (h : Faithful host c first s)
    (hok : ∀ e, (s.turn host c colours events).status ≠ .failed e) :
    Faithful host c first (s.turn host c colours events) := by
  cases hstops : events.any Event.stops with
  | true =>
    obtain ⟨k, hk⟩ := Session.poll_eq s events
    rw [Session.turn_of_stops hopen.paceRefusal?_eq hs hstops, hk]
    exact h
  | false =>
    obtain ⟨hclean, hshown⟩ := h
    cases Session.turn_turned hc hopen hs hclean hstops with
    | failing _ _ hstatus => exact absurd hstatus (hok _)
    | refused _ _ hstatus => exact absurd hstatus (hok _)
    | still _ _ hframes hdirty hscreen =>
      refine ⟨hdirty, ?_⟩
      rw [hframes, hscreen]
      exact hshown
    | shown _ _ _ hrender hframes hdirty =>
      refine ⟨hdirty, ?_⟩
      rw [hframes]
      exact ⟨colours, hopen.scheme_eq, hrender⟩

/-- **Between two polls the window shows the screen**, unless the run has failed. -/
theorem faithful_after (hm : m.dirty = false) (hp : p ≤ script.length + 1)
    (hok : ∀ e, (after host c script m p).status ≠ .failed e) :
    Faithful host c m.screen (after host c script m p) := by
  induction p with
  | zero =>
    rw [after_zero hopen]
    exact ⟨hm, rfl⟩
  | succ p ih =>
    obtain ⟨events, hevents⟩ := exists_poll hp
    by_cases hs : (after host c script m p).status = .running
    · rw [after_succ hopen hevents] at hok ⊢
      refine faithful_turn hc hopen hs (ih (by omega) fun e he => ?_) hok
      rw [hs] at he
      cases he
    · rw [after_of_not_running hopen hs (Nat.le_succ p)] at hok ⊢
      exact ih (by omega) hok

theorem dirty_after (hm : m.dirty = false) (hp : p ≤ script.length + 1)
    (hs : (after host c script m p).status = .running) :
    (after host c script m p).machine.dirty = false := by
  refine (faithful_after hc hopen hm hp ?_).1
  intro e he
  rw [hs] at he
  cases he

/-- A turn adds at most one picture, which bears the number of its poll. -/
theorem frames_after_succ (hm : m.dirty = false) (hp : p < script.length + 1) :
    ∃ new, (after host c script m (p + 1)).frames = new ++ (after host c script m p).frames ∧
      ∀ f ∈ new, f.poll = p + 1 := by
  obtain ⟨events, hevents⟩ := exists_poll hp
  by_cases hs : (after host c script m p).status = .running
  case neg =>
    rw [after_of_not_running hopen hs (Nat.le_succ p)]
    exact ⟨[], rfl, fun f hf => absurd hf List.not_mem_nil⟩
  have hclean := dirty_after hc hopen hm (Nat.le_of_lt hp) hs
  have hpolls := polls_after hopen (Nat.le_of_lt hp) hs
  rw [after_succ hopen hevents]
  cases hstops : events.any Event.stops with
  | true =>
    obtain ⟨k, hk⟩ := Session.poll_eq (after host c script m p) events
    rw [Session.turn_of_stops hopen.paceRefusal?_eq hs hstops, hk]
    exact ⟨[], rfl, fun f hf => absurd hf List.not_mem_nil⟩
  | false =>
    cases Session.turn_turned hc hopen hs hclean hstops with
    | failing _ _ _ hframes | still _ _ hframes | refused _ _ _ hframes =>
      exact ⟨[], hframes, fun f hf => absurd hf List.not_mem_nil⟩
    | @shown picture _ _ _ _ hframes =>
      refine ⟨[⟨_, picture⟩], hframes, fun f hf => ?_⟩
      rw [List.mem_singleton.1 hf, hpolls]

theorem frames_after (hm : m.dirty = false) (hpq : p ≤ q) (hq : q ≤ script.length + 1) :
    ∃ new, (after host c script m q).frames = new ++ (after host c script m p).frames ∧
      ∀ f ∈ new, p < f.poll ∧ f.poll ≤ q := by
  induction hpq with
  | refl => exact ⟨[], rfl, fun f hf => absurd hf List.not_mem_nil⟩
  | @step q hpq ih =>
    obtain ⟨new, hnew, hbounds⟩ := ih (by omega)
    obtain ⟨last, hlast, hpoll⟩ := frames_after_succ hc hopen hm hq
    have hle : p ≤ q := hpq
    refine ⟨last ++ new, by rw [hlast, hnew, List.append_assoc], fun f hf => ?_⟩
    rcases List.mem_append.1 hf with hf | hf
    · have := hpoll f hf
      omega
    · have := hbounds f hf
      omega

/-- The pictures of a poll are those that its turn added. -/
theorem framesOf_run (hm : m.dirty = false) (hp : p < script.length + 1) {new : List Frame}
    (hnew : (after host c script m (p + 1)).frames = new ++ (after host c script m p).frames)
    (hpoll : ∀ f ∈ new, f.poll = p + 1) : (run host c script m).framesOf (p + 1) = new := by
  obtain ⟨later, hlater, hafter⟩ : ∃ later, (after host c script m (script.length + 1)).frames =
      later ++ (after host c script m (p + 1)).frames ∧ ∀ f ∈ later, p + 1 < f.poll ∧ _ :=
    frames_after hc hopen hm hp (Nat.le_refl _)
  obtain ⟨earlier, hearlier, hbefore⟩ : ∃ earlier, (after host c script m p).frames =
      earlier ++ (after host c script m 0).frames ∧ ∀ f ∈ earlier, 0 < f.poll ∧ f.poll ≤ p :=
    frames_after hc hopen hm (Nat.zero_le p) (Nat.le_of_lt hp)
  rw [after_zero hopen, List.append_nil] at hearlier
  rw [run_eq_after, Session.framesOf, hlater, hnew, hearlier, List.filter_append,
    List.filter_append]
  have hlater : later.filter (fun f => f.poll == p + 1) = [] := by
    refine List.filter_eq_nil_iff.2 fun f hf => ?_
    have := hafter f hf
    simp only [beq_iff_eq]
    omega
  have hearlier : earlier.filter (fun f => f.poll == p + 1) = [] := by
    refine List.filter_eq_nil_iff.2 fun f hf => ?_
    have := hbefore f hf
    simp only [beq_iff_eq]
    omega
  have hnew : new.filter (fun f => f.poll == p + 1) = new :=
    List.filter_eq_self.2 fun f hf => beq_iff_eq.2 (hpoll f hf)
  rw [hlater, hearlier, hnew, List.nil_append, List.append_nil]

end Opened

/-- After a poll, a run shows what the step attempts of the turn drew: nothing if they drew
    nothing, else the screen that the last of them left, unless squares of the size
    cannot be drawn; then the run ends there. -/
def ShowsDrawn (host : Host) (c : Settings) (run : Session) (p : Nat) (attempts : List Machine) :
    Prop :=
  ¬ Drawn c attempts ∧ run.framesOf p = [] ∨
  Drawn c attempts ∧ ∃ x a, attempts.getLast? = some x ∧ x.step c.mode.decays = .ok a ∧
    ((∃ picture, pictureRefusal? host c = none ∧ Shows host c picture a.machine.screen ∧
      run.framesOf p = [⟨p, picture⟩]) ∨
    ∃ e, pictureRefusal? host c = some e ∧ run.result = .error e ∧ run.framesOf p = [])

theorem showsDrawn_run (hc : c.Valid) (hopen : Opens host c colours) (hm : m.dirty = false)
    (hevents : (polls script)[p]? = some events) (hstops : events.any Event.stops = false)
    (hs : (after host c script m p).status = .running)
    (hsteps : ∀ x ∈ (after host c script m p).attemptsIn c events,
      ∃ a, x.step c.mode.decays = .ok a) :
    ShowsDrawn host c (run host c script m) (p + 1)
      ((after host c script m p).attemptsIn c events) := by
  have hp : p < script.length + 1 := by
    rw [← length_polls]
    exact (List.getElem?_eq_some_iff.1 hevents).1
  have hclean := dirty_after hc hopen hm (Nat.le_of_lt hp) hs
  have hpolls := polls_after hopen (Nat.le_of_lt hp) hs
  obtain ⟨x, a, hlast, hstep, hscreen⟩ :=
    Session.exists_last_attemptIn hc hopen.paceRefusal?_eq hs hstops hsteps
  have hturned := Session.turn_turned hc hopen hs hclean hstops
  rw [← after_succ hopen hevents] at hscreen hturned
  cases hturned with
  | failing hmem herror =>
    obtain ⟨a, ha⟩ := hsteps _ hmem
    cases herror.symm.trans ha
  | still hdrawn _ hframes =>
    refine Or.inl ⟨hdrawn, framesOf_run hc hopen hm hp hframes ?_⟩
    exact fun f hf => absurd hf List.not_mem_nil
  | @refused e hdrawn hrefused hstatus hframes =>
    refine Or.inr ⟨hdrawn, x, a, hlast, hstep, Or.inr ⟨e, hrefused, ?_, ?_⟩⟩
    · have hended : (after host c script m (p + 1)).status ≠ .running := by
        rw [hstatus]
        exact fun h => by cases h
      rw [run_eq_after, after_of_not_running hopen hended hp, Session.result, hstatus]
    · refine framesOf_run hc hopen hm hp hframes ?_
      exact fun f hf => absurd hf List.not_mem_nil
  | @shown picture hdrawn hrefused _ hrender hframes =>
    rw [hpolls] at hframes
    rw [hscreen] at hrender
    refine Or.inr ⟨hdrawn, x, a, hlast, hstep, Or.inl ⟨picture, hrefused, ?_, ?_⟩⟩
    · exact ⟨colours, hopen.scheme_eq, hrender⟩
    · refine framesOf_run hc hopen hm hp hframes fun f hf => ?_
      rw [List.mem_singleton.1 hf]

theorem faithful_run (hc : c.Valid) (hopen : Opens host c colours) (hm : m.dirty = false)
    {m' : Machine} {cycles : Nat} (h : (run host c script m).result = .ok (m', cycles)) :
    Faithful host c m.screen (run host c script m) ∧ (run host c script m).machine = m' := by
  rw [run_eq_after] at h ⊢
  constructor
  · refine faithful_after hc hopen hm (Nat.le_refl _) fun e he => ?_
    rw [Session.result, he] at h
    cases h
  · rw [Session.result] at h
    split at h
    · cases h
    · exact (Prod.mk.inj (Except.ok.inj h)).1

/-- **A window shows what was drawn, when it was drawn.**  From a machine whose screen has no mark
    on, every turn whose poll is made and does not stop the run, and whose steps do not fail, shows
    what they drew; and a run that ends without an error leaves no mark, and the screen of its
    last picture. -/
theorem run_shows_drawn (host : Host) (c : Settings) (script : List Poll) (m : Machine)
    (hc : c.Valid) (hm : m.dirty = false) :
    (∀ (p : Nat) (events : Poll), (polls script)[p]? = some events →
      events.any Event.stops = false → GoesOn host c script m p →
      (∀ x ∈ (after host c script m p).attemptsIn c events, ∃ a, x.step c.mode.decays = .ok a) →
      ShowsDrawn host c (run host c script m) (p + 1)
        ((after host c script m p).attemptsIn c events)) ∧
    ∀ (m' : Machine) (cycles : Nat), (run host c script m).result = .ok (m', cycles) →
      m'.dirty = false ∧
        match (run host c script m).frames with
        | [] => m'.screen = m.screen
        | f :: _ => Shows host c f.picture m'.screen := by
  constructor
  · intro p events hevents hstops hgoes hsteps
    obtain ⟨colours, hopen⟩ := hgoes.exists_opens
    exact showsDrawn_run hc hopen hm hevents hstops hgoes.1 hsteps
  · intro m' cycles hresult
    rcases opens_or_refused host hc with ⟨colours, hopen⟩ | ⟨e, -, hrun⟩
    · obtain ⟨hfaithful, hmachine⟩ := faithful_run hc hopen hm hresult
      rw [Faithful, hmachine] at hfaithful
      exact hfaithful
    · rw [hrun] at hresult
      cases hresult

/-- A machine whose program wipes the screen. -/
def wiping : Machine :=
  { Machine.initial ⟨0, 0⟩ with memory := Cells.writeAll Memory.withFont 0x200 [0x00, 0xE0] }

theorem step_wiping : wiping.step true = .ok ⟨wiping.ran true, true⟩ := by
  have hpeek : wiping.peek = 0x00E0 := by decide +kernel
  rw [Machine.step_eq_completed_iff, hpeek]
  exact ⟨by decide, ⟨by decide, by decide, by decide⟩, by decide, rfl⟩

theorem drew_wiping : wiping.Drew true := by
  have hpeek : wiping.peek = 0x00E0 := by decide +kernel
  refine ⟨⟨_, step_wiping⟩, Or.inl ?_⟩
  rw [hpeek]
  rfl

/-- The first turn of one cycle attempts one step. -/
theorem attemptsIn_wiping {c : Settings} (hmode : c.mode = .perInstruction)
    (hcycles : c.cyclesPerFrame = 10) (hlimit : c.maxCycles = 1) :
    ({ machine := wiping } : Session).attemptsIn c [] = [wiping] := by
  have hmachine : ((({ machine := wiping } : Session).poll []).beat c).machine = wiping := by
    rw [Session.beat, hmode]
    rfl
  have hreached : ∀ cycles, Session.limitReached c (cycles + 1) = true := by
    intro cycles
    simp only [Session.limitReached, hlimit, decide_eq_true_eq]
    omega
  rw [Session.attemptsIn, hcycles, show (10 : Int).toNat = 9 + 1 from rfl,
    Session.attempts, hmachine, hmode]
  simp only [TimerMode.decays, step_wiping, hreached, if_true]

/-- The screen is wiped in the first turn of one cycle, and shown after it. -/
theorem run_shows_drawn_of_wiping :
    let c : Settings := { maxCycles := 1 }
    ∃ picture, Shows usualHost c picture (wiping.ran true).screen ∧
      (run usualHost c [[]] wiping).framesOf 1 = [⟨1, picture⟩] := by
  intro c
  have hvalid : c.Valid := (Settings.complaint?_eq_none_iff c).1 (by decide)
  have hgoes : GoesOn usualHost c [[]] wiping 0 := by decide +kernel
  obtain ⟨colours, hopen⟩ := hgoes.exists_opens
  have hattempts : (after usualHost c [[]] wiping 0).attemptsIn c [] = [wiping] := by
    rw [after_zero hopen, attemptsIn_wiping rfl rfl rfl]
  have hsteps : ∀ x ∈ (after usualHost c [[]] wiping 0).attemptsIn c [],
      ∃ a, x.step true = .ok a := by
    rw [hattempts]
    intro x hx
    rw [List.mem_singleton.1 hx]
    exact ⟨_, step_wiping⟩
  have hshows := (run_shows_drawn usualHost c [[]] wiping hvalid rfl).1 0 [] rfl rfl hgoes hsteps
  rw [hattempts] at hshows
  rcases hshows with ⟨hnot, -⟩ |
    ⟨-, x, a, hlast, hstep, ⟨picture, -, hshown, hframes⟩ | ⟨e, hrefusal, -⟩⟩
  · exact absurd ⟨wiping, List.mem_singleton_self _, drew_wiping⟩ hnot
  · have hx : wiping = x := Option.some.inj hlast
    rw [← hx] at hstep
    have ha : ⟨wiping.ran true, true⟩ = a := Except.ok.inj (step_wiping.symm.trans hstep)
    rw [← ha] at hshown
    exact ⟨picture, hshown, hframes⟩
  · have hnone : pictureRefusal? usualHost c = none := by decide
    cases hrefusal.symm.trans hnone

/-- **A limit of what can be shown.**  With squares of 2⁵² pixels a side the window opens, since
    its sides are counted in 32 bits, but the bytes of the first picture cannot be counted: the
    step completes, and nothing is shown. -/
theorem run_refuses_picture :
    let c : Settings := { scale := 0x10000000000000, maxCycles := 1 }
    c.Valid ∧ wiping.dirty = false ∧ GoesOn usualHost c [[]] wiping 0 ∧
      (after usualHost c [[]] wiping 0).attemptsIn c [] = [wiping] ∧ wiping.Drew c.mode.decays ∧
      (run usualHost c [[]] wiping).framesOf 1 = [] ∧
      (run usualHost c [[]] wiping).result = .error .pictureOutOfRange := by
  intro c
  have hvalid : c.Valid := (Settings.complaint?_eq_none_iff c).1 (by decide)
  have hgoes : GoesOn usualHost c [[]] wiping 0 := by decide +kernel
  obtain ⟨colours, hopen⟩ := hgoes.exists_opens
  have hrun : (run usualHost c [[]] wiping).frames = [] ∧
      (run usualHost c [[]] wiping).status = .failed .pictureOutOfRange := by decide +kernel
  refine ⟨hvalid, rfl, hgoes, ?_, drew_wiping, ?_, ?_⟩
  · rw [after_zero hopen, attemptsIn_wiping rfl rfl rfl]
  · rw [Session.framesOf, hrun.1]
    rfl
  · rw [Session.result, hrun.2]

end Window

end Chip8
