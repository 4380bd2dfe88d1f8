/-
  Chip8/Proofs/Keys.lean
  ======================
  **The keypad remembers the last event of each key** — at every step attempt of a run in
  a window, and at its end, a key is down if the last event of its keyboard key that was
  polled so far went down, or if there was none and it was down at first.

  An event acts on each key by itself (`Event.leaves`): keyboard keys and keys of the keypad
  belong together one to one, so an event of one key passes all others by.  Steps, timers
  and pictures leave the keypad alone.  So a session carries the fold of the events of its
  polls (`Follows`), and `foldl_leaves_iff` reads the fold as the last event.
-/
import Chip8.Proofs.Accounting

namespace Chip8

/-! ### The keys of the keyboard -/

namespace Keypad

/-- The keyboard key that stands for a key of the keypad. -/
def keyName (key : Fin 16) : String := keyboard.get key

theorem keyName_injective : ∀ key key' : Fin 16, keyName key = keyName key' → key = key' := by
  decide

theorem ofKeyboard?_eq_some_iff {name : String} {k : Nat} :
    ofKeyboard? name = some k ↔ ∃ h : k < 16, keyName ⟨k, h⟩ = name := by
  rw [ofKeyboard?, List.findIdx?_eq_some_iff_getElem]
  constructor
  · rintro ⟨hk, hname, -⟩
    exact ⟨hk, beq_iff_eq.1 hname⟩
  · rintro ⟨hk, hname⟩
    refine ⟨hk, beq_iff_eq.2 hname, ?_⟩
    intro j hjk hj
    -- an earlier key of the same name would be the same key
    have hj16 : j < 16 := Nat.lt_trans hjk hk
    have hsame : keyName ⟨j, hj16⟩ = keyName ⟨k, hk⟩ := (beq_iff_eq.1 hj).trans hname.symm
    have heq := Fin.mk.inj (keyName_injective _ _ hsame)
    omega

end Keypad

namespace Window

open Keypad (keyName)

variable {host : Host} {c : Settings} {colours : Scheme} {s : Session} {events : Poll}
  {name : String}
  {before : Bool} {e : Event}

/-! ### Events of one key -/

namespace Event

/-- The event says that the keyboard key went down or up. -/
def IsAbout (name : String) (e : Event) : Prop := e = .keyDown name ∨ e = .keyUp name

/-- Whether a key is down after an event, if it was down `before`. -/
def leaves (name : String) (before : Bool) (e : Event) : Bool :=
  if e = .keyDown name then true else if e = .keyUp name then false else before

theorem leaves_of_not_isAbout (h : ¬ e.IsAbout name) : e.leaves name before = before := by
  obtain ⟨hdown, hup⟩ := not_or.1 h
  rw [leaves, if_neg hdown, if_neg hup]

/-- The event that a key of the keypad went down or up. -/
def ofKey (key : Fin 16) (down : Bool) : Event :=
  if down then .keyDown (keyName key) else .keyUp (keyName key)

theorem isAbout_iff {key : Fin 16} : e.IsAbout (keyName key) ↔ ∃ down, e = ofKey key down := by
  constructor
  · rintro (rfl | rfl)
    · exact ⟨true, rfl⟩
    · exact ⟨false, rfl⟩
  · rintro ⟨down, rfl⟩
    cases down with
    | true => exact Or.inl rfl
    | false => exact Or.inr rfl

theorem key?_eq_some_iff {k : Nat} {down : Bool} :
    e.key? = some (k, down) ↔ ∃ key : Fin 16, key.val = k ∧ e = ofKey key down := by
  constructor
  · intro h
    cases e with
    | quit | other => cases h
    | keyDown name | keyUp name =>
      obtain ⟨k, hk, heq⟩ := Option.map_eq_some_iff.1 h
      obtain ⟨hlt, rfl⟩ := Keypad.ofKeyboard?_eq_some_iff.1 hk
      cases heq
      exact ⟨⟨k, hlt⟩, rfl, rfl⟩
  · rintro ⟨key, rfl, rfl⟩
    have hname := Keypad.ofKeyboard?_eq_some_iff.2 ⟨key.isLt, rfl⟩
    cases down <;> simp [ofKey, Event.key?, hname]

theorem key?_eq_none (h : ∀ key, ¬ e.IsAbout (keyName key)) : e.key? = none := by
  cases hkey : e.key? with
  | none => rfl
  | some pressed =>
    obtain ⟨key, -, hevent⟩ := key?_eq_some_iff.1 hkey
    exact absurd (isAbout_iff.2 ⟨_, hevent⟩) (h key)

theorem apply_of_not_isAbout (m : Machine) (h : ∀ key, ¬ e.IsAbout (keyName key)) :
    e.apply m = .ok m := by
  rw [apply, key?_eq_none h]

/-- **An event acts on each key by itself.** -/
theorem keypad_apply {m m' : Machine} (h : e.apply m = .ok m') (key : Fin 16) :
    m'.keypad.get key = e.leaves (keyName key) (m.keypad.get key) := by
  cases hkey : e.key? with
  | none =>
    rw [apply, hkey] at h
    cases h
    rw [leaves_of_not_isAbout]
    intro habout
    obtain ⟨down, hdown⟩ := isAbout_iff.1 habout
    rw [key?_eq_some_iff.2 ⟨key, rfl, hdown⟩] at hkey
    cases hkey
  | some pressed =>
    obtain ⟨k, down⟩ := pressed
    obtain ⟨pressed, rfl, rfl⟩ := key?_eq_some_iff.1 hkey
    have hlt := pressed.isLt
    rw [apply, hkey] at h
    simp only [Machine.setKey, Keypad.set?] at h
    rw [if_pos (by omega)] at h
    cases h
    change (m.keypad.setIfInBounds (Int.toNat pressed.val) down)[key.val] =
      (ofKey pressed down).leaves (keyName key) m.keypad[key.val]
    rw [Vector.getElem_setIfInBounds key.isLt, Int.toNat_natCast]
    by_cases heq : pressed = key
    · subst heq
      cases down <;> simp [leaves, ofKey]
    · -- the event of one key has another name than that of another
      have hname : keyName pressed ≠ keyName key := fun h => heq (Keypad.keyName_injective _ _ h)
      have hval : pressed.val ≠ key.val := fun h => heq (Fin.ext h)
      cases down <;> simp [leaves, ofKey, hname, hval]

end Event

/-- The last of the events that is about a keyboard key says that it went down; or none is about
    it, and it was down before. -/
def EndsDown (name : String) (before : Bool) (events : List Event) : Prop :=
  (∃ earlier later, events = earlier ++ .keyDown name :: later ∧ ∀ e ∈ later, ¬ e.IsAbout name) ∨
    before = true ∧ ∀ e ∈ events, ¬ e.IsAbout name

theorem endsDown_cons : EndsDown name before (e :: events) ↔
    EndsDown name (e.leaves name before) events := by
  constructor
  · rintro (⟨earlier, later, heq, hlater⟩ | ⟨hbefore, hnone⟩)
    · cases earlier with
      | nil =>
        obtain ⟨rfl, rfl⟩ := List.cons.inj heq
        exact Or.inr ⟨if_pos rfl, hlater⟩
      | cons first earlier =>
        obtain ⟨rfl, rfl⟩ := List.cons.inj heq
        exact Or.inl ⟨earlier, later, rfl, hlater⟩
    · obtain ⟨hfirst, hrest⟩ := List.forall_mem_cons.1 hnone
      rw [Event.leaves_of_not_isAbout hfirst]
      exact Or.inr ⟨hbefore, hrest⟩
  · rintro (⟨earlier, later, rfl, hlater⟩ | ⟨hdown, hrest⟩)
    · exact Or.inl ⟨e :: earlier, later, rfl, hlater⟩
    · by_cases hfirst : e = .keyDown name
      · subst hfirst
        exact Or.inl ⟨[], events, rfl, hrest⟩
      · unfold Event.leaves at hdown
        rw [if_neg hfirst] at hdown
        split at hdown
        · cases hdown
        next hup =>
          have hnot : ¬ e.IsAbout name := not_or.2 ⟨hfirst, hup⟩
          exact Or.inr ⟨hdown, List.forall_mem_cons.2 ⟨hnot, hrest⟩⟩

/-- The fold of what events leave of a key is their last word on it. -/
theorem foldl_leaves_iff :
    events.foldl (Event.leaves name) before = true ↔ EndsDown name before events := by
  induction events generalizing before with
  | nil =>
    constructor
    · intro h
      refine Or.inr ⟨h, ?_⟩
      intro e he
      cases he
    · rintro (⟨earlier, later, heq, -⟩ | ⟨hbefore, -⟩)
      · cases earlier <;> cases heq
      · exact hbefore
  | cons e events ih => rw [List.foldl_cons, ih, endsDown_cons]

/-! ### Keypads that follow events -/

/-- What a keypad is after events. -/
def Follows (k : Keypad) (events : List Event) (k' : Keypad) : Prop :=
  ∀ key : Fin 16, k'.get key = events.foldl (Event.leaves (keyName key)) (k.get key)

theorem Follows.refl (k : Keypad) : Follows k [] k := fun _ => rfl

theorem Follows.append {k k' k'' : Keypad} {later : List Event} (h : Follows k events k')
    (h' : Follows k' later k'') : Follows k (events ++ later) k'' := by
  intro key
  rw [List.foldl_append, ← h key]
  exact h' key

theorem Follows.endsDown_iff {k k' : Keypad} (h : Follows k events k') (key : Fin 16) :
    k'.get key = true ↔ EndsDown (keyName key) (k.get key) events := by
  rw [h key]
  exact foldl_leaves_iff

theorem follows_foldlM {m m' : Machine} (h : events.foldlM Event.apply m = .ok m') :
    Follows m.keypad events m'.keypad := by
  induction events generalizing m with
  | nil =>
    cases h
    exact .refl _
  | cons e events ih =>
    obtain ⟨k, hk⟩ := Event.apply_eq m e
    rw [List.foldlM_cons, hk] at h
    have hrest := ih h
    intro key
    rw [List.foldl_cons, ← Event.keypad_apply hk key]
    exact hrest key

end Window

/-! ### What leaves the keypad alone -/

namespace Machine

variable {m : Machine} {decay : Bool} {a : Attempt}

theorem keypad_takeFrame (m : Machine) : m.takeFrame.1.keypad = m.keypad := by
  unfold takeFrame
  split <;> rfl

theorem keypad_step (h : m.step decay = .ok a) : a.machine.keypad = m.keypad := by
  obtain ⟨m', completed⟩ := a
  cases completed with
  | false =>
    obtain ⟨rfl, -⟩ := eq_of_step_eq_waiting h
    rfl
  | true =>
    obtain ⟨-, -, -, rfl⟩ := step_eq_completed_iff.1 h
    have hsame : Part.keypad.Agrees (m.tickIf decay) (m.ran decay) := ran_agrees fun hw => hw
    exact Eq.trans hsame (keypad_tickIf m decay)

end Machine

namespace Window

open Keypad (keyName)

variable {host : Host} {c : Settings} {colours : Scheme} {s : Session} {events : Poll}

namespace Session

theorem keypad_of_mem_attempts (n : Nat) {x : Machine} (h : x ∈ s.attempts c n) :
    x.keypad = s.machine.keypad := by
  induction n generalizing s with
  | zero => cases h
  | succ n ih =>
    have hburst := burst_bursts c n s
    generalize s.attempts c (n + 1) = xs, s.burst c (n + 1) = s' at hburst h
    cases hburst with
    | failed | limited | waiting => rw [List.mem_singleton.1 h]
    | completed hstep =>
      rcases List.mem_cons.1 h with rfl | h
      · rfl
      · exact (ih h).trans (Machine.keypad_step hstep)

theorem keypad_burst (n : Nat) (s : Session) :
    (s.burst c n).machine.keypad = s.machine.keypad := by
  induction n generalizing s with
  | zero => rfl
  | succ n ih =>
    have hburst := burst_bursts c n s
    generalize s.attempts c (n + 1) = xs, s.burst c (n + 1) = s' at hburst
    cases hburst with
    | failed =>
      have hsame := congrArg Machine.keypad (machine_note c s)
      exact hsame
    | limited hstep | waiting hstep => exact Machine.keypad_step hstep
    | completed hstep => exact (ih _).trans (Machine.keypad_step hstep)

theorem keypad_play (host : Host) (c : Settings) (colours : Scheme) (s : Session) :
    (s.play host c colours).machine.keypad = s.machine.keypad := by
  have hbeat : (s.beat c).machine.keypad = s.machine.keypad := Machine.keypad_tickIf _ _
  rw [play]
  split
  · rw [keypad_burst, hbeat]
  · obtain ⟨b, hb⟩ := machine_present host c colours ((s.beat c).burst c c.cyclesPerFrame.toNat)
    rw [hb]
    exact (keypad_burst _ _).trans hbeat

theorem follows_poll (s : Session) (events : Poll) :
    Follows s.machine.keypad events (s.poll events).machine.keypad := by
  obtain ⟨k, hk⟩ := Event.foldlM_apply_eq s.machine events
  have hpoll : (s.poll events).machine = { s.machine with keypad := k } := by
    simp only [poll, hk]
  rw [hpoll]
  exact follows_foldlM hk

theorem follows_turn (hpace : host.paceRefusal? c.fps = none) (hs : s.status = .running) :
    Follows s.machine.keypad events (s.turn host c colours events).machine.keypad := by
  have hpoll := follows_poll s events
  cases hstops : events.any Event.stops with
  | true => rwa [turn_of_stops hpace hs hstops]
  | false => rwa [turn_of_not_stops hpace hs hstops, keypad_play]

theorem follows_attemptsIn {x : Machine} (h : x ∈ s.attemptsIn c events) :
    Follows s.machine.keypad events x.keypad := by
  have hbeat : ((s.poll events).beat c).machine.keypad = (s.poll events).machine.keypad :=
    Machine.keypad_tickIf _ _
  rw [keypad_of_mem_attempts _ h, hbeat]
  exact follows_poll s events

end Session

/-! ### Runs -/

/-- The events of the first so many polls of a run, in order. -/
def polled (script : List Poll) (p : Nat) : List Event := ((polls script).take p).flatten

variable {script : List Poll} {m : Machine} {p : Nat}

theorem polled_succ (h : (polls script)[p]? = some events) :
    polled script (p + 1) = polled script p ++ events := by
  simp [polled, List.take_add_one, h]

/-- **A session carries the history of its keys.** -/
theorem follows_after (host : Host) (c : Settings) (m : Machine) (hp : p ≤ script.length + 1) :
    Follows m.keypad (polled script (after host c script m p).polls)
      (after host c script m p).machine.keypad := by
  rcases opens_or_idle host c with ⟨colours, hopen⟩ | hidle
  case inr =>
    rw [(hidle script m p).polls_eq, (hidle script m p).machine_eq]
    exact .refl _
  induction p with
  | zero =>
    rw [after_zero hopen]
    exact .refl _
  | succ p ih =>
    obtain ⟨events, hevents⟩ := exists_poll hp
    by_cases hs : (after host c script m p).status = .running
    · have hpolls := polls_after hopen (Nat.le_of_lt hp) hs
      have hbefore := ih (Nat.le_of_lt hp)
      rw [hpolls] at hbefore
      rw [after_succ hopen hevents, Session.polls_turn hopen.paceRefusal?_eq hs, hpolls,
        polled_succ hevents]
      exact hbefore.append (Session.follows_turn hopen.paceRefusal?_eq hs)
    · rw [after_of_not_running hopen hs (Nat.le_succ p)]
      exact ih (Nat.le_of_lt hp)

theorem follows_attemptsAt {x : Machine} (h : x ∈ attemptsAt host c script m p) :
    Follows m.keypad (polled script (p + 1)) x.keypad := by
  unfold attemptsAt at h
  split at h
  · cases h
  next events hevents =>
  split at h
  case isFalse => cases h
  next hgoes =>
  have hp : p < script.length + 1 := by
    rw [← length_polls]
    exact (List.getElem?_eq_some_iff.1 hevents).1
  have hbefore := follows_after host c m (Nat.le_of_lt hp)
  obtain ⟨colours, hopen⟩ := hgoes.1.exists_opens
  rw [polls_after hopen (Nat.le_of_lt hp) hgoes.1.1] at hbefore
  rw [polled_succ hevents]
  exact hbefore.append (Session.follows_attemptsIn h)

/-- **The keypad is the last event of each key.**  At every step attempt after a poll, and in the
    machine that a run returns, a key is down just if the last event of its keyboard key among all
    events polled so far, also those after one that asks to quit, went down, or there was no
    such event and it was down at first.  No other event changes the machine, and no step, tick
    of the timers or picture changes the keypad. -/
theorem run_follows_keys (host : Host) (c : Settings) (script : List Poll) (m : Machine) :
    (∀ p, ∀ x ∈ attemptsAt host c script m p, ∀ key : Fin 16,
      (x.keypad.get key = true ↔
        EndsDown (keyName key) (m.keypad.get key) (polled script (p + 1)))) ∧
    (∀ m' cycles, (run host c script m).result = .ok (m', cycles) → ∀ key : Fin 16,
      (m'.keypad.get key = true ↔
        EndsDown (keyName key) (m.keypad.get key) (polled script (run host c script m).polls))) ∧
    (∀ (x : Machine) (e : Event), (∀ key, ¬ e.IsAbout (keyName key)) → e.apply x = .ok x) ∧
    (∀ (x : Machine) (decay : Bool) (a : Attempt), x.step decay = .ok a →
      a.machine.keypad = x.keypad) ∧
    ∀ x : Machine, x.tick.keypad = x.keypad ∧ x.takeFrame.1.keypad = x.keypad := by
  refine ⟨?_, ?_, ?_, ?_, ?_⟩
  · intro p x hx key
    exact (follows_attemptsAt hx).endsDown_iff key
  · intro m' cycles hresult key
    have hfollows := follows_after host c m (Nat.le_refl (script.length + 1))
    rw [← run_eq_after] at hfollows
    have hmachine : (run host c script m).machine = m' := by
      rw [Session.result] at hresult
      split at hresult
      · cases hresult
      · exact (Prod.mk.inj (Except.ok.inj hresult)).1
    rw [← hmachine]
    exact hfollows.endsDown_iff key
  · intro x e h
    exact Event.apply_of_not_isAbout x h
  · intro x decay a hstep
    exact Machine.keypad_step hstep
  · intro x
    exact ⟨rfl, Machine.keypad_takeFrame x⟩

/-- A key is pressed, a key that was down is released, and a key without a place on the keypad is
    pressed; the poll that asks to quit then releases the first of them and presses another. -/
theorem run_follows_keys_past_quit :
    let c : Settings := { cyclesPerFrame := 1 }
    let m : Machine :=
      { Machine.initial ⟨0, 0⟩ with
        memory := Cells.writeAll Memory.withFont 0x200 [0x12, 0x00]
        keypad := Keypad.released.setIfInBounds 5 true }
    let script : List Poll :=
      [[.keyDown "q", .keyUp "w", .keyDown "p"], [.quit, .keyUp "q", .keyDown "1"]]
    (∃ x ∈ attemptsAt usualHost c script m 0, x.keypad.get 4 = true ∧ x.keypad.get 5 = false) ∧
      ∃ m' cycles, (run usualHost c script m).result = .ok (m', cycles) ∧
        m'.keypad.get 0 = true ∧ m'.keypad.get 4 = false := by
  intro c m script
  obtain ⟨hattempts, hcycles, hpolls⟩ : (attemptsAt usualHost c script m 0).length = 1 ∧
      (run usualHost c script m).result.toOption.map Prod.snd = some 1 ∧
      (run usualHost c script m).polls = 2 := by
    decide +kernel
  obtain ⟨hattempt, hreturn, -⟩ := run_follows_keys usualHost c script m
  constructor
  · obtain ⟨x, hx⟩ := List.length_eq_one_iff.1 hattempts
    have hmem : x ∈ attemptsAt usualHost c script m 0 := hx ▸ List.mem_singleton_self x
    refine ⟨x, hmem, ?_, ?_⟩
    · exact (hattempt 0 x hmem 4).2 (foldl_leaves_iff.1 (by decide))
    · refine Bool.eq_false_iff.2 fun hdown => ?_
      exact absurd (foldl_leaves_iff.2 ((hattempt 0 x hmem 5).1 hdown)) (by decide)
  · cases hrun : (run usualHost c script m).result with
    | error e =>
      rw [hrun] at hcycles
      cases hcycles
    | ok final =>
      obtain ⟨m', cycles⟩ := final
      have hkey := hreturn m' cycles hrun
      rw [hpolls] at hkey
      refine ⟨m', cycles, rfl, ?_, ?_⟩
      · exact (hkey 0).2 (foldl_leaves_iff.1 (by decide))
      · refine Bool.eq_false_iff.2 fun hdown => ?_
        exact absurd (foldl_leaves_iff.2 ((hkey 4).1 hdown)) (by decide)

end Window

end Chip8
