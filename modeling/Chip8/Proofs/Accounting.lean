/-
  Chip8/Proofs/Accounting.lean
  ============================
  **A window counts its cycles** — every turn attempts at least one step and at most as many
  as a frame has, every attempt is one cycle, and a run ends, within its limit.

  A burst that is cut short says why with its last attempt (`Cuts`).  Between two polls a
  session that has not failed has counted the attempts so far, and one that still runs is
  below the limit with at least one cycle for each poll (`Accounted`).  The limit is reached
  by single cycles, so it is met exactly, and never by a poll that asks to quit.
-/
import Chip8.Proofs.Frames

namespace Chip8.Window

variable {host : Host} {c : Settings} {colours : Scheme} {s : Session} {events : Poll}

/-- The attempt of a step in this machine, which makes the number of cycles what it is, ends its
    turn: it fails, it reaches the limit, or it waits for a key. -/
inductive Cuts (c : Settings) (x : Machine) (cycles : Nat) : Prop where
  | failed {e : Error} (hstep : x.step c.mode.decays = .error e)
  | limited {a : Attempt} (hstep : x.step c.mode.decays = .ok a)
    (hlimit : Session.limitReached c cycles = true)
  | waiting {m : Machine} (hstep : x.step c.mode.decays = .ok ⟨m, false⟩)

namespace Session

/-! ### The limit -/

theorem limitReached_iff_le (c : Settings) (cycles : Nat) :
    limitReached c cycles = true ↔ c.maxCycles ≠ 0 ∧ c.maxCycles ≤ cycles := by
  simp only [limitReached, decide_eq_true_eq]

/-- One more cycle meets the limit exactly. -/
theorem eq_of_limitReached_succ {cycles : Nat} (hbelow : limitReached c cycles = false)
    (h : limitReached c (cycles + 1) = true) : c.maxCycles = (cycles + 1 : Nat) := by
  obtain ⟨hlimit, hle⟩ := (limitReached_iff_le c _).1 h
  have hnot : ¬ (c.maxCycles ≠ 0 ∧ c.maxCycles ≤ cycles) := by
    rw [← limitReached_iff_le, hbelow]
    exact Bool.false_ne_true
  omega

/-! ### Bursts -/

theorem cycles_attempted (c : Settings) (s : Session) (m : Machine) :
    (s.attempted c m).cycles = s.cycles + 1 := rfl

theorem length_attempts_le (n : Nat) (s : Session) : (s.attempts c n).length ≤ n := by
  induction n generalizing s with
  | zero => exact Nat.le_refl 0
  | succ n ih =>
    have hburst := burst_bursts c n s
    generalize s.attempts c (n + 1) = xs, s.burst c (n + 1) = s' at hburst
    cases hburst with
    | failed | limited | waiting => exact Nat.le_add_left 1 n
    | completed => exact Nat.succ_le_succ (ih _)

/-- A burst that is cut short is cut by its last attempt. -/
theorem exists_cuts_of_length_lt {n : Nat} (h : (s.attempts c n).length < n) :
    ∃ x, (s.attempts c n).getLast? = some x ∧ Cuts c x (s.cycles + (s.attempts c n).length) := by
  induction n generalizing s with
  | zero => exact absurd h (Nat.not_lt_zero _)
  | succ n ih =>
    have hburst := burst_bursts c n s
    generalize s.attempts c (n + 1) = xs, s.burst c (n + 1) = s' at hburst h ⊢
    cases hburst with
    | failed hstep => exact ⟨_, rfl, .failed hstep⟩
    | limited hstep hlimit => exact ⟨_, rfl, .limited hstep hlimit⟩
    | waiting hstep => exact ⟨_, rfl, .waiting hstep⟩
    | completed =>
      obtain ⟨x, hlast, hcuts⟩ := ih (Nat.lt_of_succ_lt_succ h)
      refine ⟨x, by rw [List.getLast?_cons, hlast]; rfl, ?_⟩
      rwa [cycles_attempted, Nat.add_assoc, Nat.add_comm 1, ← List.length_cons] at hcuts

/-- A session after attempts that make the number of cycles what it is: unless one of them failed
    it has counted them, and it has stopped just if they meet the limit. -/
structure Spent (c : Settings) (cycles : Nat) (s' : Session) : Prop where
  cycles_eq : (∀ e, s'.status ≠ .failed e) → s'.cycles = cycles
  below : s'.status = .running → limitReached c s'.cycles = false
  met : s'.status = .stopped → limitReached c s'.cycles = true ∧ c.maxCycles = s'.cycles

theorem Spent.of_failed {cycles : Nat} {s' : Session} {e : Error} (h : s'.status = .failed e) :
    Spent c cycles s' where
  cycles_eq hnot := absurd h (hnot e)
  below hs := by cases h.symm.trans hs
  met hs := by cases h.symm.trans hs

theorem Spent.of_running {s' : Session} (h : s'.status = .running)
    (hbelow : limitReached c s'.cycles = false) : Spent c s'.cycles s' where
  cycles_eq _ := rfl
  below _ := hbelow
  met hs := by cases h.symm.trans hs

theorem burst_spent (n : Nat) (hs : s.status = .running)
    (hbelow : limitReached c s.cycles = false) :
    Spent c (s.cycles + (s.attempts c n).length) (s.burst c n) := by
  induction n generalizing s with
  | zero => exact .of_running hs hbelow
  | succ n ih =>
    have hburst := burst_bursts c n s
    generalize s.attempts c (n + 1) = xs, s.burst c (n + 1) = s' at hburst
    cases hburst with
    | failed => exact .of_failed rfl
    | limited _ hlimit =>
      refine ⟨fun _ => rfl, fun hrunning => ?_, fun _ => ⟨hlimit, ?_⟩⟩
      · cases hrunning
      · exact eq_of_limitReached_succ hbelow hlimit
    | @waiting m _ hlimit => exact .of_running ((status_attempted c s m).trans hs) hlimit
    | @completed m _ hlimit =>
      have hspent := ih ((status_attempted c s m).trans hs) hlimit
      rwa [cycles_attempted, Nat.add_assoc, Nat.add_comm 1, ← List.length_cons] at hspent

theorem Spent.present {cycles : Nat} {s' : Session} (h : Spent c cycles s')
    (hscale : 1 ≤ c.scale) (hcolours : colours ∈ Scheme.all) :
    Spent c cycles (s'.present host c colours) := by
  have hpresent := present_presents host hscale hcolours s'
  generalize s'.present host c colours = s'' at hpresent
  cases hpresent with
  | clean | shown => exact ⟨h.cycles_eq, h.below, h.met⟩
  | refused => exact .of_failed rfl

/-! ### Turns -/

theorem cycles_poll_beat (c : Settings) (s : Session) (events : Poll) :
    ((s.poll events).beat c).cycles = s.cycles := by
  obtain ⟨k, hk⟩ := poll_eq s events
  rw [hk]
  rfl

theorem turn_spent (hc : c.Valid) (hopen : Opens host c colours) (hs : s.status = .running)
    (hbelow : limitReached c s.cycles = false) (hstops : events.any Event.stops = false) :
    Spent c (s.cycles + (s.attemptsIn c events).length) (s.turn host c colours events) := by
  have hrunning : ((s.poll events).beat c).status = .running := by
    obtain ⟨k, hk⟩ := poll_eq s events
    rw [hk, hstops]
    rfl
  have hcycles := cycles_poll_beat c s events
  have hburst := burst_spent c.cyclesPerFrame.toNat hrunning (hcycles.symm ▸ hbelow)
  rw [hcycles] at hburst
  rw [turn_of_not_stops hopen.paceRefusal?_eq hs hstops, play]
  split
  · exact hburst
  · exact hburst.present hc.scale_pos hopen.mem_all

/-- What a number of attempts in a turn can be: at least one and at most as many as a frame has,
    and fewer only if the last of them ends the turn. -/
structure Allotted (c : Settings) (cycles : Nat) (attempts : List Machine) : Prop where
  pos : 1 ≤ attempts.length
  le : (attempts.length : Int) ≤ c.cyclesPerFrame
  cut : (attempts.length : Int) < c.cyclesPerFrame →
    ∃ x, attempts.getLast? = some x ∧ Cuts c x (cycles + attempts.length)

theorem attemptsIn_allotted (hc : c.Valid) (s : Session) (events : Poll) :
    Allotted c s.cycles (s.attemptsIn c events) := by
  obtain ⟨n, hn, hframe⟩ := hc.exists_cyclesPerFrame
  have hattempts : s.attemptsIn c events = ((s.poll events).beat c).attempts c (n + 1) := by
    rw [attemptsIn, hn]
  rw [hattempts]
  constructor
  · exact Nat.le_add_left 1 _
  · rw [hframe]
    exact Int.ofNat_le.2 (length_attempts_le _ _)
  · intro hlt
    rw [hframe] at hlt
    have hcuts := exists_cuts_of_length_lt (Int.ofNat_lt.1 hlt)
    rwa [cycles_poll_beat] at hcuts

end Session

open Session (limitReached Allotted)

/-! ### Runs -/

variable {script : List Poll} {m : Machine} {p : Nat}

/-- The machines that the step attempts after a poll are given: none after a poll that asks to
    quit, and none in a session that does not go on to it. -/
def attemptsAt (host : Host) (c : Settings) (script : List Poll) (m : Machine) (p : Nat) :
    List Machine :=
  match (polls script)[p]? with
  | none => []
  | some events =>
    if GoesOn host c script m p ∧ events.any Event.stops = false then
      (after host c script m p).attemptsIn c events
    else []

/-- The machines that the step attempts after the first so many polls are given, in order. -/
def attemptsBefore (host : Host) (c : Settings) (script : List Poll) (m : Machine) (p : Nat) :
    List Machine :=
  (List.range p).flatMap (attemptsAt host c script m)

theorem attemptsAt_eq (hevents : (polls script)[p]? = some events)
    (hgoes : GoesOn host c script m p) (hstops : events.any Event.stops = false) :
    attemptsAt host c script m p = (after host c script m p).attemptsIn c events := by
  simp only [attemptsAt, hevents, hgoes, hstops, and_self, if_true]

theorem attemptsAt_of_not_running (hs : (after host c script m p).status ≠ .running) :
    attemptsAt host c script m p = [] := by
  unfold attemptsAt
  split
  · rfl
  · rw [if_neg fun h => hs h.1.1]

theorem attemptsAt_of_stops (hevents : (polls script)[p]? = some events)
    (hstops : events.any Event.stops = true) : attemptsAt host c script m p = [] := by
  simp only [attemptsAt, hevents, hstops, Bool.true_eq_false, and_false, if_false]

theorem attemptsBefore_succ (host : Host) (c : Settings) (script : List Poll) (m : Machine)
    (p : Nat) :
    attemptsBefore host c script m (p + 1) =
      attemptsBefore host c script m p ++ attemptsAt host c script m p := by
  simp only [attemptsBefore, List.range_succ, List.flatMap_append, List.flatMap_singleton]

/-- The last poll of a session asked to quit. -/
def Quit (script : List Poll) (s : Session) : Prop :=
  ∃ p events, s.polls = p + 1 ∧ (polls script)[p]? = some events ∧ events.any Event.stops = true

/-- A session that stopped after its last poll: at once if that asked to quit, and then the limit
    was not met; or else by meeting the limit. -/
inductive Stopped (c : Settings) (script : List Poll) (s : Session) : Prop where
  | quit {p : Nat} {events : Poll} (hpolls : s.polls = p + 1)
    (hevents : (polls script)[p]? = some events) (hstops : events.any Event.stops = true)
    (hbelow : limitReached c s.cycles = false)
  | limit {p : Nat} {events : Poll} (hpolls : s.polls = p + 1)
    (hevents : (polls script)[p]? = some events) (hstops : events.any Event.stops = false)
    (hlimit : limitReached c s.cycles = true) (hmet : c.maxCycles = s.cycles)

/-- A session stops at its limit just if its last poll did not ask to quit. -/
theorem Stopped.eq_limit_iff (h : Stopped c script s) (hpos : 0 < c.maxCycles) :
    (s.cycles : Int) ≤ c.maxCycles ∧ ((s.cycles : Int) = c.maxCycles ↔ ¬ Quit script s) := by
  cases h with
  | quit hpolls hevents hstops hbelow =>
    rw [Bool.eq_false_iff, ne_eq, Session.limitReached_iff_le] at hbelow
    have hquit : Quit script s := ⟨_, _, hpolls, hevents, hstops⟩
    refine ⟨by omega, fun heq => by omega, fun hnot => absurd hquit hnot⟩
  | limit hpolls hevents hstops _ hmet =>
    refine ⟨by omega, fun _ => ?_, fun _ => hmet.symm⟩
    rintro ⟨p, events, hpolls', hevents', hstops'⟩
    obtain rfl := Nat.succ.inj (hpolls.symm.trans hpolls')
    obtain rfl := Option.some.inj (hevents.symm.trans hevents')
    cases hstops.symm.trans hstops'

/-- The account of a run after so many polls. -/
structure Accounted (host : Host) (c : Settings) (script : List Poll) (m : Machine) (p : Nat) :
    Prop where
  cycles_eq : (∀ e, (after host c script m p).status ≠ .failed e) →
    (after host c script m p).cycles = (attemptsBefore host c script m p).length
  below : (after host c script m p).status = .running →
    limitReached c (after host c script m p).cycles = false ∧ p ≤ (after host c script m p).cycles
  stopped : (after host c script m p).status = .stopped → Stopped c script (after host c script m p)

/-! ### The end of a run -/

section Opened

variable (hopen : Opens host c colours)
include hopen

/-- The poll that follows a script asks to quit, so a run has ended after it. -/
theorem status_run : (run host c script m).status ≠ .running := by
  rw [run_eq_after]
  have hevents : (polls script)[script.length]? = some [Event.quit] := by
    rw [polls, List.getElem?_append_right (Nat.le_refl _), Nat.sub_self]
    rfl
  by_cases hs : (after host c script m script.length).status = .running
  · obtain ⟨k, hk⟩ := Session.poll_eq (after host c script m script.length) [Event.quit]
    rw [after_succ hopen hevents, Session.turn_of_stops hopen.paceRefusal?_eq hs rfl, hk]
    intro h
    cases h
  · rwa [after_of_not_running hopen hs (Nat.le_succ _)]

/-- A run makes no more polls than it has had. -/
theorem polls_after_le (hp : p ≤ script.length + 1) : (after host c script m p).polls ≤ p := by
  induction p with
  | zero => exact Nat.le_of_eq (congrArg Session.polls (after_zero hopen))
  | succ p ih =>
    obtain ⟨events, hevents⟩ := exists_poll hp
    by_cases hs : (after host c script m p).status = .running
    · rw [after_succ hopen hevents, Session.polls_turn hopen.paceRefusal?_eq hs]
      exact Nat.succ_le_succ (ih (Nat.le_of_lt hp))
    · rw [after_of_not_running hopen hs (Nat.le_succ p)]
      exact Nat.le_succ_of_le (ih (Nat.le_of_lt hp))

end Opened

section Checked

variable (hc : c.Valid) (hopen : Opens host c colours)
include hc hopen

theorem accounted_zero : Accounted host c script m 0 := by
  have hbelow : limitReached c 0 = false := by
    have hnonneg := hc.maxCycles_nonneg
    rw [Bool.eq_false_iff, ne_eq, Session.limitReached_iff_le]
    omega
  constructor <;> rw [after_zero hopen]
  · exact fun _ => rfl
  · exact fun _ => ⟨hbelow, Nat.le_refl 0⟩
  · intro h
    cases h

theorem accounted_succ (hp : p < script.length + 1) (h : Accounted host c script m p) :
    Accounted host c script m (p + 1) := by
  obtain ⟨events, hevents⟩ := exists_poll hp
  by_cases hs : (after host c script m p).status = .running
  case neg =>
    constructor <;>
      rw [after_of_not_running hopen hs (Nat.le_succ p)]
    · rw [attemptsBefore_succ, attemptsAt_of_not_running hs, List.append_nil]
      exact h.cycles_eq
    · exact fun hrunning => absurd hrunning hs
    · exact h.stopped
  obtain ⟨hbelow, hple⟩ := h.below hs
  have hcycles : (after host c script m p).cycles = (attemptsBefore host c script m p).length := by
    refine h.cycles_eq fun e he => ?_
    cases hs.symm.trans he
  have hpolls : (after host c script m (p + 1)).polls = p + 1 := by
    rw [after_succ hopen hevents, Session.polls_turn hopen.paceRefusal?_eq hs,
      polls_after hopen (Nat.le_of_lt hp) hs]
  cases hstops : events.any Event.stops with
  | true =>
    obtain ⟨k, hk⟩ := Session.poll_eq (after host c script m p) events
    have hturn := after_succ (m := m) hopen hevents
    rw [Session.turn_of_stops hopen.paceRefusal?_eq hs hstops, hk, hstops] at hturn
    constructor
    · intro _
      rw [attemptsBefore_succ, attemptsAt_of_stops hevents hstops, List.append_nil, hturn]
      exact hcycles
    · intro hrunning
      rw [hturn] at hrunning
      cases hrunning
    · intro _
      refine .quit hpolls hevents hstops ?_
      rw [hturn]
      exact hbelow
  | false =>
    have hspent := Session.turn_spent hc hopen hs hbelow hstops
    have hallotted := Session.attemptsIn_allotted hc (after host c script m p) events
    rw [← after_succ hopen hevents] at hspent
    constructor
    · intro hok
      rw [hspent.cycles_eq hok, hcycles, attemptsBefore_succ,
        attemptsAt_eq hevents ⟨hs, hopen.paceRefusal?_eq⟩ hstops, List.length_append]
    · intro hrunning
      refine ⟨hspent.below hrunning, ?_⟩
      have hnot : ∀ e, (after host c script m (p + 1)).status ≠ .failed e := by
        intro e he
        cases hrunning.symm.trans he
      have hpos := hallotted.pos
      have heq := hspent.cycles_eq hnot
      omega
    · intro hstopped
      obtain ⟨hlimit, hmet⟩ := hspent.met hstopped
      exact .limit hpolls hevents hstops hlimit hmet

theorem accounted_after (hp : p ≤ script.length + 1) : Accounted host c script m p := by
  induction p with
  | zero => exact accounted_zero hc hopen
  | succ p ih => exact accounted_succ hc hopen hp (ih (Nat.le_of_lt hp))

/-- A limit bounds the polls of a run, too. -/
theorem polls_run_le (hpos : 0 < c.maxCycles) :
    ((run host c script m).polls : Int) ≤ c.maxCycles := by
  obtain ⟨limit, hlimit⟩ := Int.eq_ofNat_of_zero_le hc.maxCycles_nonneg
  rw [run_eq_after]
  by_cases hlong : limit ≤ script.length + 1
  · -- after as many polls as the limit has cycles, a running session would have met it
    have hended : (after host c script m limit).status ≠ .running := by
      intro hs
      obtain ⟨hbelow, hple⟩ := (accounted_after hc hopen hlong).below hs
      rw [Bool.eq_false_iff, ne_eq, Session.limitReached_iff_le] at hbelow
      omega
    rw [after_of_not_running hopen hended hlong, hlimit]
    exact Int.ofNat_le.2 (polls_after_le hopen hlong)
  · have hle := polls_after_le (m := m) hopen (Nat.le_refl (script.length + 1))
    omega

end Checked

/-- **A window counts its cycles, and ends.**  A run ends within its script and the poll after
    it, and within as many polls as its limit has cycles.  Every poll that does not ask to quit
    is followed by at least one attempt and at most a frame of them, fewer only if the last one
    ends the turn.  A run that ends without an error has counted all its attempts, and has
    stopped by its last poll or by meeting its limit, exactly, but not by both. -/
theorem run_accounts_cycles (host : Host) (c : Settings) (script : List Poll) (m : Machine)
    (hc : c.Valid) :
    (run host c script m).status ≠ .running ∧
    (run host c script m).polls ≤ script.length + 1 ∧
    (0 < c.maxCycles → ((run host c script m).polls : Int) ≤ c.maxCycles) ∧
    (∀ (p : Nat) (events : Poll), (polls script)[p]? = some events →
      events.any Event.stops = false → GoesOn host c script m p →
      Allotted c (after host c script m p).cycles (attemptsAt host c script m p)) ∧
    ∀ (m' : Machine) (cycles : Nat), (run host c script m).result = .ok (m', cycles) →
      cycles = (attemptsBefore host c script m (script.length + 1)).length ∧
      Stopped c script (run host c script m) ∧
      (0 < c.maxCycles → (cycles : Int) ≤ c.maxCycles ∧
        ((cycles : Int) = c.maxCycles ↔ ¬ Quit script (run host c script m))) := by
  have hturns : ∀ (p : Nat) (events : Poll), (polls script)[p]? = some events →
      events.any Event.stops = false → GoesOn host c script m p →
      Allotted c (after host c script m p).cycles (attemptsAt host c script m p) := by
    intro p events hevents hstops hgoes
    rw [attemptsAt_eq hevents hgoes hstops]
    exact Session.attemptsIn_allotted hc _ _
  rcases opens_or_refused host hc with ⟨colours, hopen⟩ | ⟨e, -, hrun⟩
  case inr =>
    -- a run that the host refuses has no polls
    have hnonneg := hc.maxCycles_nonneg
    refine ⟨?_, ?_, fun _ => ?_, hturns, fun m' cycles hresult => ?_⟩
    · rw [hrun]
      exact fun h => by cases h
    · rw [hrun]
      exact Nat.zero_le _
    · rw [hrun]
      exact hnonneg
    · rw [hrun] at hresult
      cases hresult
  have haccount := accounted_after (m := m) hc hopen (Nat.le_refl (script.length + 1))
  have hended : (run host c script m).status ≠ .running := status_run hopen
  refine ⟨hended, ?_, polls_run_le hc hopen, hturns, fun m' cycles hresult => ?_⟩
  · rw [run_eq_after]
    exact polls_after_le hopen (Nat.le_refl _)
  rw [run_eq_after] at hresult hended ⊢
  have hstopped : (after host c script m (script.length + 1)).status = .stopped := by
    cases hstatus : (after host c script m (script.length + 1)).status with
    | running => exact absurd hstatus hended
    | stopped => rfl
    | failed e =>
      rw [Session.result, hstatus] at hresult
      cases hresult
  rw [Session.result, hstopped] at hresult
  cases hresult
  have hstops := haccount.stopped hstopped
  refine ⟨haccount.cycles_eq fun e he => ?_, hstops, hstops.eq_limit_iff⟩
  cases hstopped.symm.trans he

/-- In frames of two cycles the jump to itself meets a limit of three in the middle of its second
    frame, before the poll that asks to quit. -/
theorem run_accounts_cycles_of_jump :
    let c : Settings := { cyclesPerFrame := 2, maxCycles := 3 }
    let m : Machine :=
      { Machine.initial ⟨0, 0⟩ with memory := Cells.writeAll Memory.withFont 0x200 [0x12, 0x00] }
    let script : List Poll := [[], [.other], [.quit]]
    Allotted c 0 (attemptsAt usualHost c script m 0) ∧
      (attemptsBefore usualHost c script m 4).length = 3 ∧
      ((run usualHost c script m).polls : Int) ≤ 3 ∧ ¬ Quit script (run usualHost c script m) := by
  intro c m script
  have hvalid : c.Valid := (Settings.complaint?_eq_none_iff c).1 (by decide)
  have hcycles : (run usualHost c script m).result.toOption.map Prod.snd = some 3 := by
    decide +kernel
  have hgoes : GoesOn usualHost c script m 0 := by decide +kernel
  obtain ⟨-, -, hpolls, hturns, hresult⟩ := run_accounts_cycles usualHost c script m hvalid
  cases hrun : (run usualHost c script m).result with
  | error e =>
    rw [hrun] at hcycles
    cases hcycles
  | ok final =>
    obtain ⟨m', cycles⟩ := final
    rw [hrun] at hcycles
    cases hcycles
    obtain ⟨hlength, -, hlimit⟩ := hresult m' 3 hrun
    have hquit := (hlimit (by decide)).2.1 rfl
    exact ⟨hturns 0 [] rfl rfl hgoes, hlength.symm, hpolls (by decide), hquit⟩

end Chip8.Window
