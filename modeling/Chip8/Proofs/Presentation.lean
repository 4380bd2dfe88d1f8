/-
  Chip8/Proofs/Presentation.lean
  ==============================
  **How a run looks makes no difference to it** — settings that differ in the size of the
  pictures, in their rate and colours, in the level of the log and in the trace lead the same
  machines through the same polls.

  Two such runs part only where the host refuses something to one of them, its window, its rate or
  a picture: that session ends there, and the other one goes on.  So the relation that is carried
  through the polls (`Parted`) lets either session be refused; a session that was refused stays as
  it is.  Without a window there is nothing to refuse, and the exits are the same for all settings
  that can be printed.
-/
import Chip8.Proofs.Exits
import Chip8.Proofs.Printing

namespace Chip8

/-- Settings that may differ in how a run looks, and in nothing else. -/
structure Settings.RunAlike (c c' : Settings) : Prop where
  cyclesPerFrame_eq : c.cyclesPerFrame = c'.cyclesPerFrame
  timerMode_eq : c.timerMode = c'.timerMode
  seed_eq : c.seed = c'.seed
  headless_eq : c.headless = c'.headless
  maxCycles_eq : c.maxCycles = c'.maxCycles

variable {c c' : Settings}

namespace Settings.RunAlike

theorem symm (h : c.RunAlike c') : c'.RunAlike c :=
  ⟨h.cyclesPerFrame_eq.symm, h.timerMode_eq.symm, h.seed_eq.symm, h.headless_eq.symm,
    h.maxCycles_eq.symm⟩

theorem mode_eq (h : c.RunAlike c') : c.mode = c'.mode := by
  rw [mode, mode, h.timerMode_eq, h.cyclesPerFrame_eq]

theorem limitReached_eq (h : c.RunAlike c') (cycles : Nat) :
    Window.Session.limitReached c cycles = Window.Session.limitReached c' cycles := by
  simp only [Window.Session.limitReached, h.maxCycles_eq]

end Settings.RunAlike

/-! ### Sessions -/

namespace Window

open Settings (RunAlike)

variable {host : Host} {colours colours' : Scheme} {script : List Poll} {m : Machine}

namespace Session

variable {s s' : Session} {events : Poll}

/-- Two sessions that differ at most in what their pictures show and in their traces. -/
structure Alike (s s' : Session) : Prop where
  machine_eq : s.machine = s'.machine
  status_eq : s.status = s'.status
  cycles_eq : s.cycles = s'.cycles
  polls_eq : s.polls = s'.polls
  frames_eq : s.frames.map Frame.poll = s'.frames.map Frame.poll

theorem Alike.poll (h : s.Alike s') (events : Poll) : (s.poll events).Alike (s'.poll events) := by
  simp only [Session.poll, h.machine_eq]
  cases events.foldlM Event.apply s'.machine with
  | error e | ok m =>
    exact ⟨rfl, rfl, h.cycles_eq, congrArg (· + 1) h.polls_eq, h.frames_eq⟩

theorem Alike.beat (h : s.Alike s') (hc : c.RunAlike c') : (s.beat c).Alike (s'.beat c') := by
  have hmachine : (s.beat c).machine = (s'.beat c').machine := by
    simp only [Session.beat, h.machine_eq, hc.mode_eq]
  exact ⟨hmachine, h.status_eq, h.cycles_eq, h.polls_eq, h.frames_eq⟩

theorem Alike.note (h : s.Alike s') (c c' : Settings) : (s.note c).Alike (s'.note c') := by
  constructor
  · simpa using h.machine_eq
  · simpa using h.status_eq
  · simpa using h.cycles_eq
  · simpa using h.polls_eq
  · simpa using h.frames_eq

theorem Alike.burst (h : s.Alike s') (hc : c.RunAlike c') (n : Nat) :
    (s.burst c n).Alike (s'.burst c' n) := by
  induction n generalizing s s' with
  | zero => exact h
  | succ n ih =>
    have hnote := h.note c c'
    rw [Session.burst, Session.burst]
    simp only [machine_note, cycles_note, h.machine_eq, h.cycles_eq, hc.mode_eq,
      hc.limitReached_eq]
    cases s'.machine.step c'.mode.decays with
    | error e =>
      exact ⟨hnote.machine_eq, rfl, hnote.cycles_eq, hnote.polls_eq, hnote.frames_eq⟩
    | ok a =>
      dsimp only
      split
      · exact ⟨rfl, rfl, rfl, hnote.polls_eq, hnote.frames_eq⟩
      · split
        · exact ih ⟨rfl, hnote.status_eq, rfl, hnote.polls_eq, hnote.frames_eq⟩
        · exact ⟨rfl, hnote.status_eq, rfl, hnote.polls_eq, hnote.frames_eq⟩

/-- The host refused something to a session. -/
def Refused (host : Host) (c : Settings) (s : Session) : Prop :=
  ∃ e, Refuses host c e ∧ s.status = .failed e

/-- Two sessions are alike, unless something was refused to one of them. -/
def Parted (host : Host) (c c' : Settings) (s s' : Session) : Prop :=
  s.Alike s' ∨ s.Refused host c ∨ s'.Refused host c'

theorem Refused.turn (h : s.Refused host c) (colours : Scheme) (events : Poll) :
    (s.turn host c colours events).Refused host c := by
  obtain ⟨e, hrefuses, hs⟩ := h
  rw [turn_of_not_running (by rw [hs]; exact nofun)]
  exact ⟨e, hrefuses, hs⟩

section Opened

variable (hvalid : c.Valid) (hvalid' : c'.Valid) (hopen : Opens host c colours)
  (hopen' : Opens host c' colours')
include hvalid hvalid' hopen hopen'

theorem Alike.present (h : s.Alike s') :
    Parted host c c' (s.present host c colours) (s'.present host c' colours') := by
  have hpresent := present_presents host hvalid.scale_pos hopen.mem_all s
  have hpresent' := present_presents host hvalid'.scale_pos hopen'.mem_all s'
  generalize s.present host c colours = t, s'.present host c' colours' = t' at hpresent hpresent'
  cases hpresent with
  | refused _ hrefusal => exact Or.inr (Or.inl ⟨_, .picture hrefusal, rfl⟩)
  | clean hdirty =>
    cases hpresent' with
    | clean => exact Or.inl h
    | refused hdirty' | shown hdirty' =>
      rw [h.machine_eq, hdirty'] at hdirty
      cases hdirty
  | shown hdirty =>
    cases hpresent' with
    | refused _ hrefusal => exact Or.inr (Or.inr ⟨_, .picture hrefusal, rfl⟩)
    | clean hdirty' =>
      rw [h.machine_eq, hdirty'] at hdirty
      cases hdirty
    | shown =>
      refine Or.inl ⟨?_, h.status_eq, h.cycles_eq, h.polls_eq, ?_⟩
      · simp only [h.machine_eq]
      · simp only [List.map_cons, h.polls_eq, h.frames_eq]

theorem Alike.play (h : s.Alike s') (hc : c.RunAlike c') :
    Parted host c c' (s.play host c colours) (s'.play host c' colours') := by
  have hburst := (h.beat hc).burst hc c'.cyclesPerFrame.toNat
  simp only [Session.play, hc.cyclesPerFrame_eq, hburst.status_eq]
  split
  · exact Or.inl hburst
  · exact hburst.present hvalid hvalid' hopen hopen'

theorem Alike.turn (h : s.Alike s') (hc : c.RunAlike c') (events : Poll) :
    Parted host c c' (s.turn host c colours events) (s'.turn host c' colours' events) := by
  by_cases hs' : s'.status = .running
  case neg =>
    have hs : s.status ≠ .running := h.status_eq ▸ hs'
    rw [turn_of_not_running hs, turn_of_not_running hs']
    exact Or.inl h
  have hs := h.status_eq.trans hs'
  have hpoll := h.poll events
  cases hstops : events.any Event.stops with
  | true =>
    rw [turn_of_stops hopen.paceRefusal?_eq hs hstops,
      turn_of_stops hopen'.paceRefusal?_eq hs' hstops]
    exact Or.inl hpoll
  | false =>
    rw [turn_of_not_stops hopen.paceRefusal?_eq hs hstops,
      turn_of_not_stops hopen'.paceRefusal?_eq hs' hstops]
    exact hpoll.play hvalid hvalid' hopen hopen' hc

theorem Parted.turn (h : Parted host c c' s s') (hc : c.RunAlike c') (events : Poll) :
    Parted host c c' (s.turn host c colours events) (s'.turn host c' colours' events) := by
  rcases h with h | h | h
  · exact h.turn hvalid hvalid' hopen hopen' hc events
  · exact Or.inr (Or.inl (h.turn colours events))
  · exact Or.inr (Or.inr (h.turn colours' events))

theorem Parted.foldl (h : Parted host c c' s s') (hc : c.RunAlike c') (polls : List Poll) :
    Parted host c c' (polls.foldl (Session.turn host c colours) s)
      (polls.foldl (Session.turn host c' colours') s') := by
  induction polls generalizing s s' with
  | nil => exact h
  | cons events polls ih => exact ih (h.turn hvalid hvalid' hopen hopen' hc events)

end Opened

theorem Alike.result_eq (h : s.Alike s') : s.result = s'.result := by
  simp only [result, h.status_eq, h.machine_eq, h.cycles_eq]

end Session

/-! ### Runs in a window -/

/-- A run ended because the host refused it its window, its rate or a picture. -/
def RunRefused (host : Host) (c : Settings) (script : List Poll) (m : Machine) : Prop :=
  ∃ e, Refuses host c e ∧ (run host c script m).result = .error e

theorem runRefused_of_refused (h : (run host c script m).Refused host c) :
    RunRefused host c script m := by
  obtain ⟨e, hrefuses, hfailed⟩ := h
  refine ⟨e, hrefuses, ?_⟩
  rw [Session.result, hfailed]

theorem runRefused_of_run_eq {e : Error} (hrefuses : Refuses host c e)
    (hrun : ∀ script m, run host c script m = ({ machine := m } : Session).fail e) :
    RunRefused host c script m := by
  refine ⟨e, hrefuses, ?_⟩
  rw [hrun]
  rfl

theorem run_alike (hvalid : c.Valid) (hvalid' : c'.Valid) (hc : c.RunAlike c') (host : Host)
    (script : List Poll) (m : Machine) :
    RunRefused host c script m ∨ RunRefused host c' script m ∨
      (run host c script m).Alike (run host c' script m) := by
  rcases opens_or_refused host hvalid with ⟨colours, hopen⟩ | ⟨e, hrefuses, hrun⟩
  case inr => exact Or.inl (runRefused_of_run_eq hrefuses hrun)
  rcases opens_or_refused host hvalid' with ⟨colours', hopen'⟩ | ⟨e, hrefuses, hrun⟩
  case inr => exact Or.inr (Or.inl (runRefused_of_run_eq hrefuses hrun))
  have hstart : Session.Parted host c c' { machine := m } { machine := m } :=
    Or.inl ⟨rfl, rfl, rfl, rfl, rfl⟩
  have hend : Session.Parted host c c' (run host c script m) (run host c' script m) := by
    rw [run, run, hopen.refusal?_eq, hopen'.refusal?_eq, hopen.scheme_eq, hopen'.scheme_eq]
    exact hstart.foldl hvalid hvalid' hopen hopen' hc _
  rcases hend with halike | hrefused | hrefused
  · exact Or.inr (Or.inr halike)
  · exact Or.inl (runRefused_of_refused hrefused)
  · exact Or.inr (Or.inl (runRefused_of_refused hrefused))

end Window

/-! ### Headless runs -/

namespace CommandLine

variable {w w' : World} {args args' : List String} {path path' : String}

theorem Given.exitOf_eq (h : Given w.loader args path c) : exitOf w args = startExit w c path := by
  simp only [exitOf, h.path_eq, h.load_eq]

/-- A number that only shows in how a run looks has too many digits to be printed. -/
def LooksOverlong (c : Settings) : Prop :=
  Nat.pow 10 Text.digitLimit ≤ c.scale.natAbs ∨ Nat.pow 10 Text.digitLimit ≤ c.fps.natAbs

theorem looksOverlong_of_not_printable (hc : c.RunAlike c') (h : ¬ c.Printable)
    (h' : c'.Printable) : LooksOverlong c := by
  by_contra hlooks
  obtain ⟨hscale, hfps⟩ := not_or.1 hlooks
  refine h fun i hi => ?_
  simp only [List.mem_cons, List.not_mem_nil, or_false] at hi
  rcases hi with rfl | rfl | rfl | rfl | rfl
  · exact Nat.not_le.1 hscale
  · exact h' _ (by simp [hc.cyclesPerFrame_eq])
  · exact Nat.not_le.1 hfps
  · exact h' _ (by simp [hc.seed_eq])
  · exact h' _ (by simp [hc.maxCycles_eq])

theorem startExit_of_not_printable (h : ¬ c.Printable) :
    startExit w c path = .error .overlong := by
  rw [startExit, Bool.eq_true_of_not_eq_false (mt (any_isNone_eq_false_iff c).1 h)]
  rfl

theorem exit_headless_eq (hc : c.RunAlike c') (m : Machine) :
    (Outcome.headless c m).exit = (Outcome.headless c' m).exit := by
  have hresult : (Outcome.headless c m).result = (Outcome.headless c' m).result := by
    simp only [Outcome.headless, hc.mode_eq, hc.maxCycles_eq,
      Run.result_cycles_eq c'.mode c.trace c'.trace]
  rw [Outcome.exit, Outcome.exit, hresult]

/-- Whether an error about a file is reported does not depend on the path. -/
theorem isSome_message? (e : ReadError) (path path' : String) :
    (e.message? path).isSome = (e.message? path').isSome := by
  cases e <;> rfl

theorem startExit_eq (hc : c.RunAlike c') (h : c.Printable) (h' : c'.Printable)
    (hheadless : c.headless = true) (hread : w.read path = w'.read path')
    (hsize : w.size path = w'.size path') : startExit w c path = startExit w' c' path' := by
  have hout : ∀ m, (Outcome.of w c m).exit = (Outcome.of w' c' m).exit := by
    intro m
    rw [Outcome.of, Outcome.of, if_pos hheadless, if_pos (hc.headless_eq ▸ hheadless)]
    exact exit_headless_eq hc m
  simp only [startExit, (any_isNone_eq_false_iff _).2 h, (any_isNone_eq_false_iff _).2 h',
    hc.seed_eq, bootExit, hread, hsize, isSome_message? _ path path', hout]

theorem overflowed_headless {interactive : Bool} {readings : List Float}
    (h : Given w.loader args path c) (hheadless : c.headless = true) :
    (transcribe w interactive args readings).2.overflowed = false := by
  by_contra hoverflow
  obtain ⟨path', c', image, machine, cycles, hstarted, hwindow, -⟩ :=
    overflowed_transcribe (Bool.eq_true_of_not_eq_false hoverflow)
  obtain rfl : c = c' := Except.ok.inj (h.load_eq.symm.trans hstarted.load_eq)
  rw [hheadless] at hwindow
  cases hwindow

/-- **How a run looks makes no difference to it.**  In a window, the host refuses one of the two
    its window, its rate or a picture, or the runs end alike after the same polls, with pictures at
    the same polls.  Without a window, on the same program, the command line prints all it has to
    say and ends alike, unless the scale or the rate of one of the two is too long to be printed. -/
theorem looks_invisible (hvalid : c.Valid) (hvalid' : c'.Valid) (hc : c.RunAlike c') :
    (∀ host script m, Window.RunRefused host c script m ∨ Window.RunRefused host c' script m ∨
      (Window.run host c script m).result = (Window.run host c' script m).result ∧
      (Window.run host c script m).polls = (Window.run host c' script m).polls ∧
      (Window.run host c script m).frames.map Window.Frame.poll =
        (Window.run host c' script m).frames.map Window.Frame.poll) ∧
    ∀ (w w' : World) (interactive interactive' : Bool) (readings readings' : List Float)
      (args args' : List String) (path path' : String),
      Given w.loader args path c → Given w'.loader args' path' c' → c.headless = true →
      w.read path = w'.read path' → w.size path = w'.size path' →
      let ended := transcribe w interactive args readings
      let ended' := transcribe w' interactive' args' readings'
      ended.2.overflowed = false ∧ ended'.2.overflowed = false ∧
        (ended.1.exit = ended'.1.exit ∨
          LooksOverlong c ∧ ended.1.exit = .error .overlong ∨
          LooksOverlong c' ∧ ended'.1.exit = .error .overlong) := by
  constructor
  · intro host script m
    rcases Window.run_alike hvalid hvalid' hc host script m with hrefused | hrefused | halike
    · exact Or.inl hrefused
    · exact Or.inr (Or.inl hrefused)
    · exact Or.inr (Or.inr ⟨halike.result_eq, halike.polls_eq, halike.frames_eq⟩)
  · intro w w' interactive interactive' readings readings' args args' path path' hgiven hgiven'
      hheadless hread hsize ended ended'
    have hexit : ended.1.exit = startExit w c path := (exit_transcribe ..).trans hgiven.exitOf_eq
    have hexit' : ended'.1.exit = startExit w' c' path' :=
      (exit_transcribe ..).trans hgiven'.exitOf_eq
    refine ⟨overflowed_headless hgiven hheadless,
      overflowed_headless hgiven' (hc.headless_eq ▸ hheadless), ?_⟩
    rw [hexit, hexit']
    by_cases hprintable : c.Printable
    · by_cases hprintable' : c'.Printable
      · exact Or.inl (startExit_eq hc hprintable hprintable' hheadless hread hsize)
      · exact Or.inr (Or.inr ⟨looksOverlong_of_not_printable hc.symm hprintable' hprintable,
          startExit_of_not_printable hprintable'⟩)
    · by_cases hprintable' : c'.Printable
      · exact Or.inr (Or.inl ⟨looksOverlong_of_not_printable hc hprintable hprintable',
          startExit_of_not_printable hprintable⟩)
      · rw [startExit_of_not_printable hprintable, startExit_of_not_printable hprintable']
        exact Or.inl rfl

/-- Other squares, colours and rate, and a trace: in a window, a program that wipes the screen
    twice shows its pictures at the same polls, and without one it ends alike. -/
theorem looks_invisible_of_wiping :
    let c : Settings := { cyclesPerFrame := 1, headless := true, maxCycles := 2 }
    let c' : Settings :=
      { c with scale := 3, fps := 30, colorScheme := "amber", logLevel := "debug", trace := true }
    let args := ["r", "headless=true", "cycles_per_frame=1", "max_cycles=2"]
    let args' := args ++ ["scale=3", "fps=30", "color_scheme=amber", "log_level=debug", "trace=on"]
    let w := World.ofFile "r" [0x00, 0xE0, 0x00, 0xE0]
    let m := Machine.booted ⟨0, 0⟩ [0x00, 0xE0, 0x00, 0xE0]
    (Window.run w.host c [[], []] m).frames.map Window.Frame.poll =
        (Window.run w.host c' [[], []] m).frames.map Window.Frame.poll ∧
      (transcribe w false args [0.0]).1.exit = (transcribe w true args' [0.0, 1.5]).1.exit := by
  intro c c' args args' w m
  have hvalid : c.Valid := (Settings.complaint?_eq_none_iff c).1 (by decide)
  have hvalid' : c'.Valid := (Settings.complaint?_eq_none_iff c').1 (by decide)
  have hgiven : Given w.loader args "r" c := ⟨rfl, Settings.load_eq_ok_of_toOption (by decide +kernel)⟩
  have hgiven' : Given w.loader args' "r" c' :=
    ⟨rfl, Settings.load_eq_ok_of_toOption (by decide +kernel)⟩
  obtain ⟨hwindow, hexit⟩ := looks_invisible hvalid hvalid' ⟨rfl, rfl, rfl, rfl, rfl⟩
  constructor
  · have hok : (Window.run w.host c [[], []] m).result.isOk = true := by decide +kernel
    have hok' : (Window.run w.host c' [[], []] m).result.isOk = true := by decide +kernel
    rcases hwindow w.host [[], []] m with ⟨e, -, hrun⟩ | ⟨e, -, hrun⟩ | ⟨-, -, hframes⟩
    · rw [hrun] at hok
      cases hok
    · rw [hrun] at hok'
      cases hok'
    · exact hframes
  · obtain ⟨-, -, hsame | ⟨hlong, -⟩ | ⟨hlong, -⟩⟩ := hexit w w false true [0.0] [0.0, 1.5] args
      args' "r" "r" hgiven hgiven' rfl rfl rfl
    · exact hsame
    · exact absurd hlong (by unfold LooksOverlong; decide +kernel)
    · exact absurd hlong (by unfold LooksOverlong; decide +kernel)

theorem not_printable_of_scale {n : Nat} (hscale : c.scale = n)
    (h : Nat.pow 10 Text.digitLimit ≤ n) : ¬ c.Printable := by
  intro hprintable
  have hshort := hprintable c.scale List.mem_cons_self
  rw [hscale, Int.natAbs_natCast] at hshort
  exact Nat.not_lt.2 h hshort

/-- A scale in hexadecimal digits is loaded, however many there are. -/
theorem given_hex_scale (p : Settings.Loader) {n : Nat} (hn : 0 < n) :
    Given p ["r", "headless=True", "max_cycles=1",
      "scale=" ++ String.ofList ('0' :: 'x' :: List.replicate n 'f')] "r"
        { scale := (16 ^ n - 1 : Nat), headless := true, maxCycles := 1 } := by
  have hfits := Settings.readsAs_hex hn
  generalize String.ofList ('0' :: 'x' :: List.replicate n 'f') = digits at hfits ⊢
  have hoverride : isOverride ("scale=" ++ digits) = true := by
    simp [isOverride]
  have hflat : Settings.Valid { headless := true, maxCycles := 1 } :=
    (Settings.complaint?_eq_none_iff _).1 (by decide)
  have hvalid : Settings.Valid { scale := (16 ^ n - 1 : Nat), headless := true, maxCycles := 1 } :=
    { hflat with scale_pos := Settings.one_le_hex hn }
  have hload : Settings.load p (([⟨.headless, "True", .bool true⟩, ⟨.maxCycles, "1", .int 1⟩,
      ⟨.scale, digits, .int (16 ^ n - 1 : Nat)⟩] : List Settings.Reading).map
        Settings.Reading.override) =
      .ok { scale := (16 ^ n - 1 : Nat), headless := true, maxCycles := 1 } := by
    refine Settings.load_readings p (fun r hr => ?_) (fun f hf => ?_) hvalid
    · simp only [List.mem_cons, List.not_mem_nil, or_false] at hr
      rcases hr with rfl | rfl | rfl
      · exact Settings.readsAs_flag true
      · exact Settings.readsAs_integer (i := 1) (by decide +kernel)
      · exact hfits
    · cases f <;> first | rfl | simp at hf
  constructor
  · rw [List.filter_cons_of_pos (by decide), List.filter_cons_of_neg (by decide),
      List.filter_cons_of_neg (by decide), List.filter_cons_of_neg (by simp [hoverride])]
    rfl
  · rw [List.filter_cons_of_neg (by decide), List.filter_cons_of_pos (by decide),
      List.filter_cons_of_pos (by decide), List.filter_cons_of_pos hoverride]
    exact hload

/-- **Limits of looks.**  Settings that differ in their scale or their rate only: with squares of 40
    million pixels a side no window opens, 2¹⁰²⁴ pictures per second cannot be waited for, and a
    scale of more than 4300 digits cannot be printed. -/
theorem looks_visible :
    let narrow : Settings := { maxCycles := 1 }
    let wide : Settings := { scale := 40000000, maxCycles := 1 }
    let fast : Settings := { fps := Nat.pow 2 1024, maxCycles := 1 }
    let flat : Settings := { headless := true, maxCycles := 1 }
    let long : Settings := { scale := (16 ^ 3600 - 1 : Nat), headless := true, maxCycles := 1 }
    let args := ["r", "headless=True", "max_cycles=1"]
    let args' := ["r", "headless=True", "max_cycles=1",
      "scale=" ++ String.ofList ('0' :: 'x' :: List.replicate 3600 'f')]
    let w := World.ofFile "r" [0x12, 0x00]
    let m := Machine.booted ⟨0, 0⟩ [0x12, 0x00]
    (narrow.Valid ∧ wide.Valid ∧ narrow.RunAlike wide ∧
      (Window.run w.host narrow [[]] m).result ≠ (Window.run w.host wide [[]] m).result) ∧
    (fast.Valid ∧ narrow.RunAlike fast ∧
      (Window.run w.host narrow [[]] m).result ≠ (Window.run w.host fast [[]] m).result) ∧
    (Given w.loader args "r" flat ∧ Given w.loader args' "r" long ∧ flat.RunAlike long ∧
      (transcribe w false args []).1.exit ≠ (transcribe w false args' []).1.exit) := by
  intro narrow wide fast flat long args args' w m
  have hnarrow : narrow.Valid := (Settings.complaint?_eq_none_iff narrow).1 (by decide)
  have hwide : wide.Valid := (Settings.complaint?_eq_none_iff wide).1 (by decide)
  have hfast : fast.Valid := (Settings.complaint?_eq_none_iff fast).1 (by decide +kernel)
  have hflat : Given w.loader args "r" flat :=
    ⟨rfl, Settings.load_eq_ok_of_toOption (by decide +kernel)⟩
  have hlong : Given w.loader args' "r" long := given_hex_scale _ (by decide)
  have hok : (Window.run w.host narrow [[]] m).result.isOk = true := by decide +kernel
  refine ⟨⟨hnarrow, hwide, ⟨rfl, rfl, rfl, rfl, rfl⟩, ?_⟩,
    ⟨hfast, ⟨rfl, rfl, rfl, rfl, rfl⟩, ?_⟩, hflat, hlong, ⟨rfl, rfl, rfl, rfl, rfl⟩, ?_⟩
  · have herror : (Window.run w.host wide [[]] m).result = .error (.refused ⟨"error"⟩) := by
      rw [Window.run_eq_after, Window.after_of_refusal? (e := .refused ⟨"error"⟩) (by decide)]
      rfl
    intro hsame
    rw [hsame, herror] at hok
    cases hok
  · have hpace : w.host.paceRefusal? fast.fps = some ⟨"OverflowError"⟩ := by decide +kernel
    have herror : (Window.run w.host fast [[]] m).result =
        .error (.refused ⟨"OverflowError"⟩) := by
      rw [Window.run_of_paceRefusal? hfast (by decide) hpace]
      rfl
    intro hsame
    rw [hsame, herror] at hok
    cases hok
  · have hprintable : ¬ long.Printable := not_printable_of_scale rfl (by decide +kernel)
    have hshort : (exitOf w args).toOption.isSome := by decide +kernel
    rw [exit_transcribe, exit_transcribe, hlong.exitOf_eq, startExit_of_not_printable hprintable]
    intro hsame
    rw [hsame] at hshort
    cases hshort

end CommandLine

end Chip8
