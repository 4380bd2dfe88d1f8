/-
  Chip8/Proofs/Turns.lean
  =======================
  **What a turn of a session is made of** — a wait, a poll, a burst of step attempts and a
  picture, with everything that each of them can do said once.

  `Bursts` has one constructor for each way in which the first attempt of a burst can
  go, and `Presents` one for each way of showing a screen; arguments about whole runs
  go by induction over the polls and, in one turn, over the attempts, by cases on these
  two.  `after` is the run over a script, stopped between two polls.
-/
import Chip8.Proofs.Stepping
import Chip8.Window

namespace Chip8

/-! ### Settings that were checked -/

namespace Settings

theorem mode_cases (c : Settings) :
    c.mode = .perInstruction ∨ c.mode = .perFrame c.cyclesPerFrame := by
  rw [mode, TimerMode.ofName]
  split
  · exact Or.inl rfl
  · exact Or.inr rfl

theorem Valid.exists_cyclesPerFrame {c : Settings} (hc : c.Valid) :
    ∃ n : Nat, c.cyclesPerFrame.toNat = n + 1 ∧ c.cyclesPerFrame = (n + 1 : Nat) := by
  have hpos := hc.cyclesPerFrame_pos
  exact ⟨c.cyclesPerFrame.toNat - 1, by omega, by omega⟩

end Settings

namespace Picture

theorem scheme_eq_ok {name : String} (h : name ∈ Scheme.names) :
    ∃ colours ∈ Scheme.all, scheme name = .ok colours := by
  obtain ⟨named, hmem, hname⟩ := List.mem_map.1 h
  cases hfind : Scheme.find? name with
  | some colours => exact ⟨colours, List.mem_of_find?_eq_some hfind, by rw [scheme, hfind]⟩
  | none =>
    have hnone := List.find?_eq_none.1 hfind named hmem
    exact absurd (beq_iff_eq.2 hname) hnone

theorem mem_all_of_scheme {name : String} {colours : Scheme} (h : scheme name = .ok colours) :
    colours ∈ Scheme.all := by
  rw [scheme] at h
  split at h
  · next hfind =>
    cases h
    exact List.mem_of_find?_eq_some hfind
  · cases h

theorem toRgb?_of_mem {colours : Scheme} (h : colours ∈ Scheme.all) :
    (∃ on, colours.on.toRgb? = some on) ∧ ∃ off, colours.off.toRgb? = some off := by
  have hall : ∀ s ∈ Scheme.all, s.on.toRgb?.isSome ∧ s.off.toRgb?.isSome := by decide
  obtain ⟨hon, hoff⟩ := hall colours h
  exact ⟨Option.isSome_iff_exists.1 hon, Option.isSome_iff_exists.1 hoff⟩

theorem length_toList_screen (screen : Screen) : screen.toList.length = Screen.size :=
  screen.length_toList

/-- A screen in the colours of a scheme is refused for the size of its squares only. -/
theorem render_cases (host : Host) {colours : Scheme} (hcolours : colours ∈ Scheme.all)
    {scale : Int} (hscale : 1 ≤ scale) (screen : Screen) :
    (∃ e, refusal? host scale = some e ∧
      render host screen.toList scale colours.on colours.off = .error e) ∨
      refusal? host scale = none ∧
        ∃ picture, render host screen.toList scale colours.on colours.off = .ok picture := by
  obtain ⟨⟨on, hon⟩, off, hoff⟩ := toRgb?_of_mem hcolours
  rw [render, if_neg (Int.not_lt.2 hscale), if_neg (not_not_intro (length_toList_screen screen)),
    hon, hoff]
  cases refusal? host scale with
  | none => exact Or.inr ⟨rfl, _, rfl⟩
  | some e => exact Or.inl ⟨e, rfl, rfl⟩

end Picture

namespace Window

/-! ### Pictures in the window -/

/-- Why a host shows no pictures with the squares of the settings: they cannot be built, or they
    cannot be put into the window. -/
def pictureRefusal? (host : Host) (c : Settings) : Option Error :=
  (Picture.refusal? host c.scale).or
    ((host.surfaceRefusal? (size c).1 (size c).2).map .refused)

theorem picture_cases (host : Host) {c : Settings} {colours : Scheme} (hscale : 1 ≤ c.scale)
    (hcolours : colours ∈ Scheme.all) (screen : Screen) :
    (∃ e, pictureRefusal? host c = some e ∧ picture host c colours screen = .error e) ∨
      pictureRefusal? host c = none ∧ ∃ shown,
        Picture.render host screen.toList c.scale colours.on colours.off = .ok shown ∧
          picture host c colours screen = .ok shown := by
  rcases Picture.render_cases host hcolours hscale screen with
    ⟨e, hrefusal, hrender⟩ | ⟨hrefusal, shown, hrender⟩
  · exact Or.inl ⟨e, by rw [pictureRefusal?, hrefusal, Option.some_or],
      by simp only [picture, hrender]⟩
  · simp only [pictureRefusal?, hrefusal, Option.none_or, picture, hrender]
    cases host.surfaceRefusal? (size c).1 (size c).2 with
    | some r => exact Or.inl ⟨_, rfl, rfl⟩
    | none => exact Or.inr ⟨rfl, shown, rfl, rfl⟩

/-- What a host can refuse to a run in a window: the window, the rate at which it is to go on,
    or its pictures. -/
inductive Refuses (host : Host) (c : Settings) : Error → Prop where
  | window {e : Error} (h : refusal? host c = some e) : Refuses host c e
  | pace {r : Refusal} (h : host.paceRefusal? c.fps = some r) : Refuses host c (.refused r)
  | picture {e : Error} (h : pictureRefusal? host c = some e) : Refuses host c e

/-! ### Events -/

namespace Event

theorem key_lt {e : Event} {k : Nat} {down : Bool} (h : e.key? = some (k, down)) : k < 16 := by
  have hbound : ∀ {name : String} {k : Nat}, Keypad.ofKeyboard? name = some k → k < 16 := by
    intro name k hk
    obtain ⟨hlt, -⟩ := List.findIdx?_eq_some_iff_getElem.1 hk
    exact hlt
  cases e with
  | quit | other => cases h
  | keyDown name | keyUp name =>
    obtain ⟨key, hkey, heq⟩ := Option.map_eq_some_iff.1 h
    cases heq
    exact hbound hkey

/-- An event changes nothing but the keypad, and is never refused. -/
theorem apply_eq (m : Machine) (e : Event) : ∃ k, e.apply m = .ok { m with keypad := k } := by
  rw [apply]
  split
  · next key down hkey =>
    have hlt := key_lt hkey
    refine ⟨m.keypad.setIfInBounds key down, ?_⟩
    rw [Machine.setKey, Keypad.set?, if_pos (by omega)]
    rfl
  · exact ⟨m.keypad, rfl⟩

theorem foldlM_apply_eq (m : Machine) (events : Poll) :
    ∃ k, events.foldlM apply m = .ok { m with keypad := k } := by
  induction events generalizing m with
  | nil => exact ⟨m.keypad, rfl⟩
  | cons e events ih =>
    obtain ⟨k, hk⟩ := apply_eq m e
    obtain ⟨k', hk'⟩ := ih { m with keypad := k }
    refine ⟨k', ?_⟩
    rw [List.foldlM_cons, hk]
    exact hk'

/-- The event neither ends a run nor is about a key of the keypad. -/
def Quiet (e : Event) : Prop := e.stops = false ∧ e.key? = none

theorem any_stops_of_quiet {events : Poll} (h : ∀ e ∈ events, e.Quiet) :
    events.any stops = false := by
  rw [List.any_eq_false]
  intro e he hstops
  rw [(h e he).1] at hstops
  cases hstops

theorem foldlM_apply_of_quiet (m : Machine) {events : Poll} (h : ∀ e ∈ events, e.Quiet) :
    events.foldlM apply m = .ok m := by
  induction events with
  | nil => rfl
  | cons e events ih =>
    have happly : e.apply m = .ok m := by rw [apply, (h e (List.mem_cons_self ..)).2]
    rw [List.foldlM_cons, happly]
    exact ih fun e' he' => h e' (List.mem_cons_of_mem _ he')

end Event

/-! ### Polls -/

namespace Session

variable {host : Host} {c : Settings} {colours : Scheme} {s : Session} {events : Poll}

/-- A poll reaches the machine through the keypad only. -/
theorem poll_eq (s : Session) (events : Poll) :
    ∃ k, s.poll events =
      { s with
        machine := { s.machine with keypad := k }, polls := s.polls + 1
        status := if events.any Event.stops then .stopped else .running } := by
  obtain ⟨k, hk⟩ := Event.foldlM_apply_eq s.machine events
  refine ⟨k, ?_⟩
  simp only [poll, hk]

theorem poll_of_quiet (hs : s.status = .running) (h : ∀ e ∈ events, e.Quiet) :
    s.poll events = { s with polls := s.polls + 1 } := by
  simp only [poll, Event.foldlM_apply_of_quiet _ h, Event.any_stops_of_quiet h,
    Bool.false_eq_true, if_false, hs]

/-! ### Bursts -/

@[simp] theorem machine_note (c : Settings) (s : Session) : (s.note c).machine = s.machine := by
  rw [note]
  split <;> rfl

@[simp] theorem status_note (c : Settings) (s : Session) : (s.note c).status = s.status := by
  rw [note]
  split <;> rfl

@[simp] theorem cycles_note (c : Settings) (s : Session) : (s.note c).cycles = s.cycles := by
  rw [note]
  split <;> rfl

@[simp] theorem polls_note (c : Settings) (s : Session) : (s.note c).polls = s.polls := by
  rw [note]
  split <;> rfl

@[simp] theorem frames_note (c : Settings) (s : Session) : (s.note c).frames = s.frames := by
  rw [note]
  split <;> rfl

/-- The session after an attempt that left a machine. -/
def attempted (c : Settings) (s : Session) (m : Machine) : Session :=
  { s.note c with machine := m, cycles := s.cycles + 1 }

theorem status_attempted (c : Settings) (s : Session) (m : Machine) :
    (s.attempted c m).status = s.status :=
  status_note c s

theorem polls_attempted (c : Settings) (s : Session) (m : Machine) :
    (s.attempted c m).polls = s.polls :=
  polls_note c s

theorem frames_attempted (c : Settings) (s : Session) (m : Machine) :
    (s.attempted c m).frames = s.frames :=
  frames_note c s

/-- The machines that the attempts of a burst are given, in order. -/
def attempts (c : Settings) : (n : Nat) → Session → List Machine
  | 0, _ => []
  | n + 1, s =>
    s.machine :: match s.machine.step c.mode.decays with
      | .error _ => []
      | .ok a =>
        if limitReached c (s.cycles + 1) then []
        else if a.completed then attempts c n (s.attempted c a.machine)
        else []

/-- What the first attempt makes of a burst that has `n` more: the attempts and the session
    after them. -/
inductive Bursts (c : Settings) (n : Nat) (s : Session) : List Machine → Session → Prop where
  | failed {e : Error} (hstep : s.machine.step c.mode.decays = .error e) :
    Bursts c n s [s.machine] ((s.note c).fail e)
  | limited {a : Attempt} (hstep : s.machine.step c.mode.decays = .ok a)
    (hlimit : limitReached c (s.cycles + 1) = true) :
    Bursts c n s [s.machine] { s.attempted c a.machine with status := .stopped }
  | waiting {m : Machine} (hstep : s.machine.step c.mode.decays = .ok ⟨m, false⟩)
    (hlimit : limitReached c (s.cycles + 1) = false) :
    Bursts c n s [s.machine] (s.attempted c m)
  | completed {m : Machine} (hstep : s.machine.step c.mode.decays = .ok ⟨m, true⟩)
    (hlimit : limitReached c (s.cycles + 1) = false) :
    Bursts c n s (s.machine :: (s.attempted c m).attempts c n) ((s.attempted c m).burst c n)

theorem burst_bursts (c : Settings) (n : Nat) (s : Session) :
    Bursts c n s (s.attempts c (n + 1)) (s.burst c (n + 1)) := by
  rw [burst, attempts]
  simp only [machine_note, cycles_note]
  cases hstep : s.machine.step c.mode.decays with
  | error e => exact .failed hstep
  | ok a =>
    obtain ⟨m, completed⟩ := a
    simp only
    cases hlimit : limitReached c (s.cycles + 1) with
    | true => exact .limited hstep hlimit
    | false =>
      cases completed with
      | true => exact .completed hstep hlimit
      | false => exact .waiting hstep hlimit

theorem polls_burst (n : Nat) (s : Session) : (s.burst c n).polls = s.polls := by
  induction n generalizing s with
  | zero => rfl
  | succ n ih =>
    have hburst := burst_bursts c n s
    generalize s.attempts c (n + 1) = xs, s.burst c (n + 1) = s' at hburst
    cases hburst with
    | failed | limited | waiting => exact polls_note c s
    | completed => exact (ih _).trans (polls_attempted c s _)

theorem frames_burst (n : Nat) (s : Session) : (s.burst c n).frames = s.frames := by
  induction n generalizing s with
  | zero => rfl
  | succ n ih =>
    have hburst := burst_bursts c n s
    generalize s.attempts c (n + 1) = xs, s.burst c (n + 1) = s' at hburst
    cases hburst with
    | failed | limited | waiting => exact frames_note c s
    | completed => exact (ih _).trans (frames_attempted c s _)

/-! ### Pictures -/

/-- What showing the screen makes of a session. -/
inductive Presents (host : Host) (c : Settings) (colours : Scheme) (s : Session) :
    Session → Prop where
  | clean (hdirty : s.machine.dirty = false) : Presents host c colours s s
  | refused {e : Error} (hdirty : s.machine.dirty = true)
    (hrefusal : pictureRefusal? host c = some e) :
    Presents host c colours s (fail { s with machine := { s.machine with dirty := false } } e)
  | shown {picture : Picture} (hdirty : s.machine.dirty = true)
    (hrefusal : pictureRefusal? host c = none)
    (hrender : Picture.render host s.machine.screen.toList c.scale colours.on colours.off =
      .ok picture) :
    Presents host c colours s
      { s with
        machine := { s.machine with dirty := false }
        frames := ⟨s.polls, picture⟩ :: s.frames }

theorem present_presents (host : Host) (hscale : 1 ≤ c.scale) (hcolours : colours ∈ Scheme.all)
    (s : Session) : Presents host c colours s (s.present host c colours) := by
  rw [present, Machine.takeFrame]
  cases hdirty : s.machine.dirty with
  | false => exact .clean hdirty
  | true =>
    simp only [if_true]
    rcases picture_cases host hscale hcolours s.machine.screen with
      ⟨e, hrefusal, hpicture⟩ | ⟨hrefusal, shown, hrender, hpicture⟩
    · simp only [hpicture]
      exact .refused hdirty hrefusal
    · simp only [hpicture]
      exact .shown hdirty hrefusal hrender

theorem polls_present (host : Host) (c : Settings) (colours : Scheme) (s : Session) :
    (s.present host c colours).polls = s.polls := by
  rw [present]
  split
  split
  · rfl
  · split <;> rfl

/-- To show the screen is to take its mark off, and nothing else, for the machine. -/
theorem machine_present (host : Host) (c : Settings) (colours : Scheme) (s : Session) :
    ∃ b, (s.present host c colours).machine = { s.machine with dirty := b } := by
  rw [present, Machine.takeFrame]
  cases s.machine.dirty with
  | false => exact ⟨s.machine.dirty, rfl⟩
  | true =>
    refine ⟨false, ?_⟩
    simp only [if_true]
    split <;> rfl

/-! ### Turns -/

theorem polls_play (host : Host) (c : Settings) (colours : Scheme) (s : Session) :
    (s.play host c colours).polls = s.polls := by
  rw [play]
  split
  · exact polls_burst _ _
  · exact (polls_present host c colours _).trans (polls_burst _ _)

theorem turn_of_not_running (hs : s.status ≠ .running) : s.turn host c colours events = s := by
  rw [turn, if_neg hs]

/-- A turn that cannot wait for its time is over. -/
theorem turn_of_paceRefusal? {r : Refusal} (hs : s.status = .running)
    (h : host.paceRefusal? c.fps = some r) :
    s.turn host c colours events = s.fail (.refused r) := by
  simp only [turn, pace, h, hs, fail, reduceCtorEq, if_true, if_false]

section Paced

variable (hpace : host.paceRefusal? c.fps = none)
include hpace

theorem turn_of_stops (hs : s.status = .running) (h : events.any Event.stops = true) :
    s.turn host c colours events = s.poll events := by
  obtain ⟨k, hk⟩ := poll_eq s events
  simp only [turn, pace, hpace, hs, hk, h, if_true, reduceCtorEq, if_false]

theorem turn_of_not_stops (hs : s.status = .running) (h : events.any Event.stops = false) :
    s.turn host c colours events = (s.poll events).play host c colours := by
  obtain ⟨k, hk⟩ := poll_eq s events
  simp only [turn, pace, hpace, hs, hk, h, Bool.false_eq_true, if_true, if_false]

theorem polls_turn (hs : s.status = .running) :
    (s.turn host c colours events).polls = s.polls + 1 := by
  obtain ⟨k, hk⟩ := poll_eq s events
  cases hstops : events.any Event.stops with
  | true => rw [turn_of_stops hpace hs hstops, hk]
  | false => rw [turn_of_not_stops hpace hs hstops, polls_play, hk]

end Paced

end Session

/-! ### Runs -/

/-- The polls of a run over a script: at the end, one asks to quit. -/
def polls (script : List Poll) : List Poll := script ++ [[Event.quit]]

/-- The session of a run after so many polls. -/
def after (host : Host) (c : Settings) (script : List Poll) (m : Machine) (p : Nat) : Session :=
  match refusal? host c with
  | some e => ({ machine := m } : Session).fail e
  | none =>
    match Picture.scheme c.colorScheme with
    | .error e => ({ machine := m } : Session).fail e
    | .ok colours => ((polls script).take p).foldl (Session.turn host c colours) { machine := m }

variable {host : Host} {c : Settings} {colours : Scheme} {script : List Poll} {m : Machine}
  {p q : Nat}

theorem length_polls (script : List Poll) : (polls script).length = script.length + 1 :=
  List.length_append ..

theorem exists_poll (h : p < script.length + 1) : ∃ events, (polls script)[p]? = some events :=
  ⟨_, List.getElem?_eq_getElem (by rwa [length_polls])⟩

theorem run_eq_after (host : Host) (c : Settings) (script : List Poll) (m : Machine) :
    run host c script m = after host c script m (script.length + 1) := by
  rw [after, ← length_polls, List.take_length]
  rfl

/-- A window was opened, in the colours of the settings, and can go on at their rate. -/
structure Opens (host : Host) (c : Settings) (colours : Scheme) : Prop where
  refusal?_eq : refusal? host c = none
  paceRefusal?_eq : host.paceRefusal? c.fps = none
  scheme_eq : Picture.scheme c.colorScheme = .ok colours
  mem_all : colours ∈ Scheme.all

theorem after_of_refusal? {e : Error} (h : refusal? host c = some e) (p : Nat) :
    after host c script m p = ({ machine := m } : Session).fail e := by
  rw [after, h]

/-- After so many polls a run goes on to the next one. -/
def GoesOn (host : Host) (c : Settings) (script : List Poll) (m : Machine) (p : Nat) : Prop :=
  (after host c script m p).status = .running ∧ host.paceRefusal? c.fps = none

instance (host : Host) (c : Settings) (script : List Poll) (m : Machine) (p : Nat) :
    Decidable (GoesOn host c script m p) :=
  inferInstanceAs (Decidable (_ ∧ _))

/-- A session that cannot wait for its first turn has none. -/
theorem foldl_turn_of_paceRefusal? {r : Refusal} (h : host.paceRefusal? c.fps = some r)
    {s : Session} (hs : s.status = .running) (events : Poll) (polls : List Poll) :
    (events :: polls).foldl (Session.turn host c colours) s = s.fail (.refused r) := by
  rw [List.foldl_cons, Session.turn_of_paceRefusal? hs h]
  induction polls with
  | nil => rfl
  | cons events polls ih =>
    rw [List.foldl_cons, Session.turn_of_not_running (by exact nofun), ih]

/-- A window that is not opened, or cannot go on, has no turns: its machine is left as it is. -/
inductive Idle (m : Machine) : Session → Prop where
  | unbegun : Idle m { machine := m }
  | failed (e : Error) : Idle m (({ machine := m } : Session).fail e)

theorem Idle.machine_eq {s : Session} (h : Idle m s) : s.machine = m := by
  cases h <;> rfl

theorem Idle.polls_eq {s : Session} (h : Idle m s) : s.polls = 0 := by
  cases h <;> rfl

theorem after_of_paceRefusal? {r : Refusal} (h : host.paceRefusal? c.fps = some r)
    (script : List Poll) (m : Machine) (p : Nat) : Idle m (after host c script m p) := by
  rw [after]
  split
  · exact .failed _
  · split
    · exact .failed _
    · cases htaken : (polls script).take p with
      | nil => exact .unbegun
      | cons events rest =>
        rw [foldl_turn_of_paceRefusal? h rfl]
        exact .failed _

/-- A window opens in the colours of the settings and can go on, or nothing happens in it. -/
theorem opens_or_idle (host : Host) (c : Settings) :
    (∃ colours, Opens host c colours) ∨ ∀ script m p, Idle m (after host c script m p) := by
  cases hrefusal : refusal? host c with
  | some e =>
    refine Or.inr fun script m p => ?_
    rw [after_of_refusal? hrefusal]
    exact .failed e
  | none =>
    cases hpace : host.paceRefusal? c.fps with
    | some r => exact Or.inr (after_of_paceRefusal? hpace)
    | none =>
      cases hscheme : Picture.scheme c.colorScheme with
      | error e =>
        refine Or.inr fun script m p => ?_
        rw [after, hrefusal, hscheme]
        exact .failed e
      | ok colours =>
        exact Or.inl ⟨colours, hrefusal, hpace, hscheme, Picture.mem_all_of_scheme hscheme⟩

theorem GoesOn.exists_opens (h : GoesOn host c script m p) : ∃ colours, Opens host c colours := by
  obtain ⟨hs, hpace⟩ := h
  rw [after] at hs
  split at hs
  · cases hs
  next hrefusal =>
  split at hs
  · cases hs
  next colours hscheme =>
  exact ⟨colours, hrefusal, hpace, hscheme, Picture.mem_all_of_scheme hscheme⟩

theorem run_of_paceRefusal? (hc : c.Valid) (hrefusal : refusal? host c = none) {r : Refusal}
    (h : host.paceRefusal? c.fps = some r) (script : List Poll) (m : Machine) :
    run host c script m = ({ machine := m } : Session).fail (.refused r) := by
  obtain ⟨colours, -, hscheme⟩ := Picture.scheme_eq_ok hc.colorScheme_mem
  rw [run, hrefusal, hscheme]
  cases script with
  | nil => exact foldl_turn_of_paceRefusal? h rfl _ _
  | cons events script => exact foldl_turn_of_paceRefusal? h rfl _ _

/-- With settings that were checked, a window opens and can go on, or the host refuses and
    nothing happens. -/
theorem opens_or_refused (host : Host) (hc : c.Valid) :
    (∃ colours, Opens host c colours) ∨
      ∃ e, Refuses host c e ∧
        ∀ script m, run host c script m = ({ machine := m } : Session).fail e := by
  cases hrefusal : refusal? host c with
  | some e =>
    refine Or.inr ⟨e, .window hrefusal, fun script m => ?_⟩
    rw [run_eq_after, after_of_refusal? hrefusal]
  | none =>
    cases hpace : host.paceRefusal? c.fps with
    | none =>
      obtain ⟨colours, hmem, hscheme⟩ := Picture.scheme_eq_ok hc.colorScheme_mem
      exact Or.inl ⟨colours, hrefusal, hpace, hscheme, hmem⟩
    | some r => exact Or.inr ⟨_, .pace hpace, run_of_paceRefusal? hc hrefusal hpace⟩

section Opened

variable (hopen : Opens host c colours)
include hopen

theorem after_zero : after host c script m 0 = { machine := m } := by
  rw [after, hopen.refusal?_eq, hopen.scheme_eq]
  rfl

theorem after_succ {events : Poll} (h : (polls script)[p]? = some events) :
    after host c script m (p + 1) = (after host c script m p).turn host c colours events := by
  simp only [after, hopen.refusal?_eq, hopen.scheme_eq, List.take_add_one, h, List.foldl_append]
  rfl

/-- Nothing happens in a session that has ended. -/
theorem after_of_not_running (h : (after host c script m p).status ≠ .running) (hpq : p ≤ q) :
    after host c script m q = after host c script m p := by
  induction hpq with
  | refl => rfl
  | @step q hpq ih =>
    cases hevents : (polls script)[q]? with
    | some events =>
      rw [after_succ hopen hevents, ih, Session.turn_of_not_running h]
    | none =>
      simp only [after, List.take_add_one, hevents, Option.toList_none, List.append_nil] at ih ⊢
      exact ih

/-- A session that still runs counts its polls. -/
theorem polls_after (hp : p ≤ script.length + 1)
    (h : (after host c script m p).status = .running) : (after host c script m p).polls = p := by
  induction p with
  | zero => rw [after_zero hopen]
  | succ p ih =>
    obtain ⟨events, hevents⟩ := exists_poll hp
    have hrunning : (after host c script m p).status = .running := by
      refine Decidable.byContradiction fun hnot => hnot ?_
      rwa [after_of_not_running hopen hnot (Nat.le_succ p)] at h
    rw [after_succ hopen hevents, Session.polls_turn hopen.paceRefusal?_eq hrunning,
      ih (by omega) hrunning]

end Opened

/-- A host with windows of up to 16384 pixels a side and 64 GiB of memory. -/
def usualHost : Host := Host.desktop 16384 0x1000000000

end Window

end Chip8
