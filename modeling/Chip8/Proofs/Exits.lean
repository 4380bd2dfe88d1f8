/-
  Chip8/Proofs/Exits.lean
  =======================
  **How the command line ends** — with an exit status, or with an error for which there is
  none; what it prints on the way makes no difference.

  `exitOf` is the command line without its messages, in a `World` whose files and process stay as
  they are.  That it says how a run ends, and that a run with an ordinary clock prints all its
  messages, are two readings of one argument about the operations on a transcript (`Keeps`), which
  follows the stages of the command line.
-/
import Chip8.CommandLine
import Chip8.Proofs.Numerals
import Chip8.Proofs.Safety

namespace Chip8

/-! ### Operations on a transcript -/

namespace Transcript

variable {α β : Type} {P : Transcript → Prop} {x : StateM Transcript α}
  {f : α → StateM Transcript β} {good : α → Prop} {goal : β → Prop}

/-- An operation keeps a property of transcripts, and has a good result. -/
def Keeps (P : Transcript → Prop) (x : StateM Transcript α) (good : α → Prop) : Prop :=
  ∀ t, P t → P (x.run t).2 ∧ good (x.run t).1

theorem Keeps.pure {a : α} (h : good a) : Keeps P (pure a) good := fun _ ht => ⟨ht, h⟩

theorem Keeps.bind (hx : Keeps P x good) (hf : ∀ a, good a → Keeps P (f a) goal) :
    Keeps P (x >>= f) goal := by
  intro t ht
  obtain ⟨hkept, hgood⟩ := hx t ht
  exact hf _ hgood _ hkept

theorem Keeps.forM {f : α → StateM Transcript Unit} (hf : ∀ a, Keeps P (f a) fun _ => True)
    (l : List α) : Keeps P (l.forM f) fun _ => True := by
  induction l with
  | nil => exact .pure trivial
  | cons a l ih => exact (hf a).bind fun _ _ => ih

/-- Nothing was too large to be printed, and the clock will tell seconds with a fraction. -/
structure Calm (t : Transcript) : Prop where
  printed : t.overflowed = false
  ticking : ∀ x ∈ t.clock, ∃ y, x = .real y

theorem calm_now : Keeps Calm now fun s => ∃ y, s = .real y := by
  intro t ht
  obtain ⟨clock, lines, overflowed⟩ := t
  match clock with
  | [] => exact ⟨ht, _, rfl⟩
  | [s] => exact ⟨ht, ht.ticking s (List.mem_singleton_self s)⟩
  | s :: s' :: r =>
    refine ⟨⟨ht.printed, fun u hu => ?_⟩, ht.ticking s (List.mem_cons_self ..)⟩
    exact ht.ticking u (List.mem_cons_of_mem _ hu)

theorem lines_now (t : Transcript) : (now.run t).2.lines = t.lines := by
  obtain ⟨clock, lines, overflowed⟩ := t
  match clock with
  | [] | [_] | _ :: _ :: _ => rfl

theorem run_putLine {t : Transcript} (ht : t.overflowed = false) (line : String) :
    (putLine line).run t = ((), { t with lines := line :: t.lines }) := by
  change ((), if t.overflowed then t else { t with lines := line :: t.lines }) = _
  rw [ht]
  rfl

theorem calm_putLine (line : String) : Keeps Calm (putLine line) fun _ => True := by
  intro t ht
  rw [run_putLine ht.printed]
  exact ⟨⟨ht.printed, ht.ticking⟩, trivial⟩

end Transcript

/-! ### Consoles -/

namespace Console

open Transcript (Calm Keeps terminal)

variable {console : Console} {interactive : Bool}

/-- The messages of a console keep a property of transcripts, but for the last one of a run
    with a number of cycles that cannot be told. -/
structure Suits (interactive : Bool) (P : Transcript → Prop) (told : Int → Prop)
    (console : Console) : Prop where
  log (level message : String) :
    Keeps P (console.log (terminal interactive) level message) fun _ => True
  stopped {cycles : Int} (h : told cycles) :
    Keeps P (console.stopped (terminal interactive) cycles) fun _ => True

theorem Suits.configuration {P : Transcript → Prop} {told : Int → Prop}
    (h : Suits interactive P told console) (entries : List (String × String)) :
    Keeps P (console.configuration (terminal interactive) entries) fun _ => True :=
  (h.log _ _).bind fun _ _ => .forM (fun _ => h.log _ _) entries

/-- A number of cycles that has a speed: it is not beyond all numbers with a fraction. -/
def HasSpeed (cycles : Int) : Prop := (Text.Decimal.ofInt? cycles).isSome

theorem calm_log {y : Float} (hstart : console.start = .real y) (level message : String) :
    Keeps Calm (console.log (terminal interactive) level message) fun _ => True := by
  unfold log
  split
  · split
    · refine Transcript.calm_now.bind fun now hnow => ?_
      obtain ⟨x, rfl⟩ := hnow
      rw [hstart]
      exact Transcript.calm_putLine _
    · exact Transcript.calm_putLine _
  · exact .pure trivial

theorem calm_stopped {y : Float} (hstart : console.start = .real y) {cycles : Int}
    (h : HasSpeed cycles) :
    Keeps Calm (console.stopped (terminal interactive) cycles) fun _ => True := by
  refine Transcript.calm_now.bind fun now hnow => ?_
  obtain ⟨x, rfl⟩ := hnow
  have hrate : ∃ rate, ((Seconds.real x).since? console.start).bind (Seconds.rate? cycles) =
      some rate := by
    obtain ⟨n, hn⟩ := Option.isSome_iff_exists.1 h
    rw [hstart]
    change ∃ rate, (if 0.0 < x - y then (Text.Decimal.ofInt? cycles).map (· / (x - y))
      else some 0.0) = some rate
    rw [hn]
    split
    · exact ⟨_, rfl⟩
    · exact ⟨_, rfl⟩
  obtain ⟨rate, hrate⟩ := hrate
  rw [hrate]
  exact calm_log hstart _ _

/-- All consoles that are opened keep a property of transcripts. -/
def Ready (interactive : Bool) (P : Transcript → Prop) (told : Int → Prop) : Prop :=
  ∀ name level colours timestamps,
    Keeps P (openOn (terminal interactive) name level colours timestamps)
      (Suits interactive P told)

/-- Consoles that are opened with an ordinary clock print their messages. -/
theorem ready_calm : Ready interactive Calm HasSpeed := fun _ _ _ _ =>
  Transcript.calm_now.bind fun _ ⟨_, hstart⟩ => .pure ⟨calm_log hstart, calm_stopped hstart⟩

/-- A message that is shown with its time is the next line of a transcript. -/
theorem lines_log (interactive : Bool) {t : Transcript} (ht : Calm t) {y : Float}
    (hstart : console.start = .real y) {level : String} (hshows : console.shows level = true)
    (htime : console.timestamps = true) (message : String) :
    ∃ elapsed, ((console.log (terminal interactive) level message).run t).2.lines =
      console.line (some elapsed) level message :: t.lines := by
  obtain ⟨hcalm, x, hx⟩ := Transcript.calm_now t ht
  have hbind : ∀ f : Seconds → StateM Transcript Unit,
      (Transcript.now >>= f).run t = (f (Transcript.now.run t).1).run (Transcript.now.run t).2 :=
    fun _ => rfl
  refine ⟨x - y, ?_⟩
  unfold log
  rw [if_pos hshows, if_pos htime, ← Transcript.lines_now t]
  refine (congrArg (fun r => r.2.lines) (hbind _)).trans ?_
  rw [hx, hstart]
  exact congrArg (fun r => r.2.lines) (Transcript.run_putLine hcalm.printed _)

end Console

namespace CommandLine

open Transcript (Calm Keeps)

/-- What lies around a run apart from its terminal: a process, a host, files and events. -/
structure World where
  loader : Settings.Loader
  host : Host
  read : String → Except ReadError Bytes
  size : String → Except ReadError Nat
  script : List Window.Poll := []

/-- A world and a transcript are all there is around. -/
def within (w : World) (interactive : Bool) : Surroundings (StateM Transcript) where
  terminal := Transcript.terminal interactive
  loader := w.loader
  host := w.host
  read path := pure (w.read path)
  size path := pure (w.size path)
  script := pure w.script

/-! ### What is printed makes no difference -/

/-- What comes of running a machine, with or without a window. -/
def Outcome.of (w : World) (c : Settings) (machine : Machine) : Outcome :=
  if c.headless then headless c machine else windowed w.host c w.script machine

/-- How a run ends. -/
def Outcome.exit (o : Outcome) : Except Escape Exit :=
  match o.result with
  | .ok _ => .ok .finished
  | .error e => if e.isFault then .ok .halted else .error (.machine e)

/-- How the command line ends with a program that is to be loaded into a machine and run. -/
def bootExit (w : World) (c : Settings) (path : String) (machine : Machine) :
    Except Escape Exit :=
  match w.read path with
  | .error e => if (e.message? path).isSome then .ok .halted else .error (.file e)
  | .ok image =>
    match machine.loadProgram image with
    | .error _ => .ok .halted
    | .ok machine =>
      match w.size path with
      | .error e => .error (.file e)
      | .ok _ => (Outcome.of w c machine).exit

/-- How the command line ends with settings that loaded. -/
def startExit (w : World) (c : Settings) (path : String) : Except Escape Exit :=
  if c.entries.any fun entry => entry.2.isNone then .error .overlong
  else match Machine.ofSeed c.seed with
    | .error e => .error (.machine e)
    | .ok machine => bootExit w c path machine

/-- How the command line ends. -/
def exitOf (w : World) (args : List String) : Except Escape Exit :=
  match args.filter fun arg => !isOverride arg with
  | [path] =>
    match Settings.load w.loader (args.filter isOverride) with
    | .ok c => startExit w c path
    | .error e => if e.report?.isSome then .ok .misused else .error (.settings e)
  | _ => .ok .misused

/-- One path is given, and settings that load. -/
structure Given (p : Settings.Loader) (args : List String) (path : String) (c : Settings) :
    Prop where
  path_eq : (args.filter fun arg => !isOverride arg) = [path]
  load_eq : Settings.load p (args.filter isOverride) = .ok c

/-- A program is loaded into a machine of the settings, and run. -/
structure Started (w : World) (args : List String) (path : String) (c : Settings)
    (image : Bytes) (machine : Machine) : Prop extends Given w.loader args path c where
  read_eq : w.read path = .ok image
  loaded : ∃ fresh, Machine.ofSeed c.seed = .ok fresh ∧ fresh.loadProgram image = .ok machine

theorem any_isNone_eq_false_iff (c : Settings) :
    (c.entries.any fun entry => entry.2.isNone) = false ↔ c.Printable := by
  rw [c.printable_iff, List.any_eq_false]
  simp only [Option.isNone_iff_eq_none, ne_eq]

section Stages

variable {w : World} {interactive : Bool} {console : Console} {c : Settings} {path : String}
  {machine : Machine} {args : List String} {P : Transcript → Prop} {told : Int → Prop}

/-- The number of cycles that a run reports, if it ends without an error, can be told. -/
def Outcome.Told (told : Int → Prop) (o : Outcome) : Prop :=
  ∀ cycles, o.result = .ok cycles → told cycles

theorem keeps_play (hsuits : console.Suits interactive P told)
    (htold : (Outcome.of w c machine).Told told) :
    Keeps P (play (within w interactive) console c machine) fun ending =>
      ending.exit = (Outcome.of w c machine).exit := by
  have hrest : ∀ o : Outcome, o.Told told →
      Keeps P (do
        o.log.forM (console.trace (Transcript.terminal interactive))
        match o.result with
        | .ok cycles =>
          console.stopped (Transcript.terminal interactive) cycles
          return (⟨.ok .finished, o.frames⟩ : Ending)
        | .error e =>
          if e.isFault then
            console.halted (Transcript.terminal interactive) e.message
            return (⟨.ok .halted, o.frames⟩ : Ending)
          else return (⟨.error (.machine e), o.frames⟩ : Ending))
        fun ending => ending.exit = o.exit := by
    intro o ho
    refine (Keeps.forM (fun _ => hsuits.log _ _) _).bind fun _ _ => ?_
    rw [Outcome.exit]
    cases hresult : o.result with
    | ok cycles => exact (hsuits.stopped (ho cycles hresult)).bind fun _ _ => .pure rfl
    | error e =>
      dsimp only
      split
      · exact (hsuits.log _ _).bind fun _ _ => .pure rfl
      · exact .pure rfl
  unfold play
  unfold Outcome.of at htold ⊢
  split
  · next hheadless =>
    rw [if_pos hheadless] at htold
    exact hrest _ htold
  · next hheadless =>
    rw [if_neg hheadless] at htold
    exact hrest _ htold

theorem keeps_boot (hsuits : console.Suits interactive P told)
    (htold : ∀ image machine', w.read path = .ok image →
      machine.loadProgram image = .ok machine' → (Outcome.of w c machine').Told told) :
    Keeps P (boot (within w interactive) console c path machine) fun ending =>
      ending.exit = bootExit w c path machine := by
  have hread : Keeps P ((within w interactive).read path) (· = w.read path) := .pure rfl
  have hsize : Keeps P ((within w interactive).size path) (· = w.size path) := .pure rfl
  refine hread.bind fun found hfound => ?_
  rw [bootExit, ← hfound]
  rw [← hfound] at htold
  cases found with
  | error e =>
    dsimp only
    cases e.message? path with
    | none => exact .pure rfl
    | some text => exact (hsuits.log _ _).bind fun _ _ => .pure rfl
  | ok image =>
    dsimp only
    cases hload : machine.loadProgram image with
    | error e => exact (hsuits.log _ _).bind fun _ _ => .pure rfl
    | ok machine' =>
      refine hsize.bind fun size hsize => ?_
      rw [← hsize]
      cases size with
      | error e => exact .pure rfl
      | ok size =>
        exact (hsuits.log _ _).bind fun _ _ => keeps_play hsuits (htold image machine' rfl hload)

theorem keeps_start (hready : Console.Ready interactive P told)
    (htold : ∀ fresh image machine', Machine.ofSeed c.seed = .ok fresh → w.read path = .ok image →
      fresh.loadProgram image = .ok machine' → (Outcome.of w c machine').Told told) :
    Keeps P (start (within w interactive) c path) fun ending =>
      ending.exit = startExit w c path := by
  refine (hready _ _ _ _).bind fun console hsuits => ?_
  refine (hsuits.configuration _).bind fun _ _ => ?_
  unfold startExit
  split
  · exact .pure rfl
  · cases hseed : Machine.ofSeed c.seed with
    | error e => exact .pure rfl
    | ok fresh =>
      exact keeps_boot hsuits fun image machine' hread hload =>
        htold fresh image machine' hseed hread hload

theorem keeps_run (hready : Console.Ready interactive P told)
    (htold : ∀ path c image machine, Started w args path c image machine →
      (Outcome.of w c machine).Told told) :
    Keeps P (run (within w interactive) args) fun ending => ending.exit = exitOf w args := by
  refine (hready _ _ _ _).bind fun console hsuits => ?_
  have husage : Keeps P
      (do
        console.error (Transcript.terminal interactive) usage
        return ({ exit := .ok .misused } : Ending))
      fun ending => ending.exit = .ok .misused :=
    (hsuits.log _ _).bind fun _ _ => .pure rfl
  unfold exitOf
  cases hpath : args.filter (fun arg => !isOverride arg) with
  | nil => exact husage
  | cons path rest =>
    cases rest with
    | cons _ _ => exact husage
    | nil =>
    have hloader : (within w interactive).loader = w.loader := rfl
    simp only [hloader]
    cases hload : Settings.load w.loader (args.filter isOverride) with
    | error e =>
      dsimp only
      cases e.report? with
      | some report => exact (hsuits.log _ _).bind fun _ _ => .pure rfl
      | none => exact .pure rfl
    | ok c =>
      exact keeps_start hready fun fresh image machine hseed hread hboot =>
        htold path c image machine ⟨⟨hpath, hload⟩, hread, fresh, hseed, hboot⟩

end Stages

variable {w : World} {interactive : Bool} {args : List String}

/-- What was printed so far makes no difference to how the command line ends. -/
theorem exit_run (w : World) (interactive : Bool) (args : List String) (t : Transcript) :
    ((run (within w interactive) args).run t).1.exit = exitOf w args := by
  have hready : Console.Ready interactive (fun _ => True) fun _ => True := fun _ _ _ _ _ _ =>
    ⟨trivial, fun _ _ _ _ => ⟨trivial, trivial⟩, fun _ _ _ => ⟨trivial, trivial⟩⟩
  exact (keeps_run hready (fun _ _ _ _ _ _ _ => trivial) t trivial).2

/-! ### What is printed -/

/-- Without a window the number of cycles that is reported is one that can be counted. -/
theorem told_headless {c : Settings} (hc : c.Valid) (m : Machine) :
    (Outcome.headless c m).Told Console.HasSpeed := by
  intro k hk
  obtain ⟨n, hn⟩ := Int.eq_ofNat_of_zero_le hc.maxCycles_nonneg
  cases hrun : (Run.cycles c.mode c.trace n m).result with
  | error e =>
    rw [Outcome.headless, hn, hrun] at hk
    cases hk
  | ok end' =>
    obtain ⟨m', k'⟩ := end'
    rw [Outcome.headless, hn, hrun] at hk
    obtain rfl : k' = k := Except.ok.inj hk
    obtain ⟨hcount, hafter, hk'⟩ := Run.result_cycles_eq_ok hrun
    have hle : k' ≤ n :=
      calc k' = _ := hk'
        _ ≤ _ := List.countP_le_length
        _ = n := Run.length_attempts hafter
    have hlimit : k' < 2 ^ 63 := by
      simp only [Run.countLimit] at hcount
      omega
    refine Text.Decimal.isSome_ofInt? ?_
    rw [Int.natAbs_natCast]
    by_cases hzero : k' = 0
    · rw [hzero]
      decide
    · have := (Nat.log2_lt hzero).2 hlimit
      omega

/-- The command line on a transcript whose clock gives such readings. -/
def transcribe (w : World) (interactive : Bool) (args : List String) (readings : List Float) :
    Ending × Transcript :=
  (run (within w interactive) args).run { clock := readings.map .real }

theorem exit_transcribe (w : World) (interactive : Bool) (args : List String)
    (readings : List Float) : (transcribe w interactive args readings).1.exit = exitOf w args :=
  exit_run ..

theorem calm_start (readings : List Float) : Calm { clock := readings.map .real } :=
  ⟨rfl, fun _ hx => (List.mem_map.1 hx).elim fun y hy => ⟨y, hy.2.symm⟩⟩

/-- Everything that a run says is printed, unless it is a run in a window of cycles whose number
    has more than 1023 binary digits. -/
theorem overflowed_transcribe {readings : List Float}
    (h : (transcribe w interactive args readings).2.overflowed = true) :
    ∃ path c image machine cycles, Started w args path c image machine ∧ c.headless = false ∧
      (Outcome.windowed w.host c w.script machine).result = .ok cycles ∧ 1023 ≤ cycles.log2 := by
  by_contra hnone
  have htold : ∀ path c image machine, Started w args path c image machine →
      (Outcome.of w c machine).Told Console.HasSpeed := by
    intro path c image machine hstarted
    cases hheadless : c.headless with
    | true =>
      rw [Outcome.of, if_pos hheadless]
      exact told_headless (Settings.valid_of_load hstarted.load_eq) machine
    | false =>
      rw [Outcome.of, if_neg (by simp [hheadless])]
      intro cycles hresult
      refine Text.Decimal.isSome_ofInt? (Nat.lt_of_not_le fun hlarge => hnone ?_)
      rw [Int.natAbs_natCast] at hlarge
      exact ⟨path, c, image, machine, cycles, hstarted, hheadless, hresult, hlarge⟩
  have hprinted : (transcribe w interactive args readings).2.overflowed = false :=
    (keeps_run Console.ready_calm htold _ (calm_start readings)).1.printed
  rw [h] at hprinted
  cases hprinted

/-! ### Settings that do not load -/

/-- What is reported of settings that do not load: a fault that says that they are refused, or
    what makes no sense about them. -/
theorem report?_eq_some_iff {e : Settings.LoadError} {report : String} :
    e.report? = some report ↔
      (∃ f, e = .fault f ∧ f.isRefusal = true ∧ f.message = report) ∨
        ∃ i, e = .invalid i ∧ i.message = report := by
  cases e with
  | fault f => simp [Settings.LoadError.report?]
  | invalid i => simp [Settings.LoadError.report?]
  | overlongComplaint => simp [Settings.LoadError.report?]

/-- **Settings that are refused are reported.**  They end the command line with the status for
    misuse, and the report is the one line that is printed. -/
theorem run_reports {readings : List Float} {path report : String} {e : Settings.LoadError}
    (hpath : (args.filter fun arg => !isOverride arg) = [path])
    (hload : Settings.load w.loader (args.filter isOverride) = .error e)
    (hreport : (∃ f, e = .fault f ∧ f.isRefusal = true ∧ f.message = report) ∨
      ∃ i, e = .invalid i ∧ i.message = report) :
    let ended := transcribe w interactive args readings
    ended.1.exit = .ok .misused ∧ ∃ start elapsed, ended.2.lines =
      [Console.line ⟨Console.defaultName, Console.defaultLevel, interactive, true, start⟩
        (some elapsed) "ERROR" s!"Invalid configuration: {report}"] := by
  intro ended
  replace hreport := report?_eq_some_iff.2 hreport
  constructor
  · have hexit : ended.1.exit = exitOf w args := exit_transcribe ..
    rw [hexit]
    simp only [exitOf, hpath, hload, hreport, Option.isSome_some, if_true]
  obtain ⟨hcalm, y, hy⟩ := Transcript.calm_now _ (calm_start readings)
  have hrun : run (within w interactive) args = (do
      let console ← Console.openOn (Transcript.terminal interactive) Console.defaultName
        Console.defaultLevel true true
      console.error (Transcript.terminal interactive) s!"Invalid configuration: {report}"
      return { exit := .ok .misused }) := by
    unfold run
    have hloader : (within w interactive).loader = w.loader := rfl
    simp only [hloader, hpath, hload, hreport]
    rfl
  have hshows : Console.shows ⟨Console.defaultName, Text.uppercase Console.defaultLevel,
      interactive, true, .real y⟩ "ERROR" = true := by
    change decide (Log.rank (Text.uppercase Console.defaultLevel) ≤
      Log.rank (Text.uppercase "ERROR")) = true
    decide +kernel
  obtain ⟨elapsed, hlines⟩ := Console.lines_log interactive hcalm rfl hshows rfl
    s!"Invalid configuration: {report}"
  have hstart : (Transcript.now.run { clock := readings.map .real }).2.lines = [] :=
    Transcript.lines_now _
  refine ⟨.real y, elapsed, ?_⟩
  rw [hstart] at hlines
  change ((run (within w interactive) args).run { clock := readings.map .real }).2.lines = _
  rw [hrun]
  change ((Console.log (Transcript.terminal interactive) ⟨Console.defaultName,
    Text.uppercase Console.defaultLevel, true && interactive, true,
    (Transcript.now.run { clock := readings.map .real }).1⟩ "ERROR"
    s!"Invalid configuration: {report}").run
      (Transcript.now.run { clock := readings.map .real }).2).2.lines = _
  rw [hy, Bool.true_and, hlines]
  rfl

/-! ### Errors without an exit status -/

/-- No file has that name. -/
def missing : ReadError := .system 2 "No such file or directory" true

/-- A world with one file. -/
def World.ofFile (path : String) (image : Bytes) : World where
  loader := Settings.usualLoader
  host := Window.usualHost
  read other := if other = path then .ok image else .error missing
  size other := if other = path then .ok image.length else .error missing

/-- **Errors without an exit status.**  A value that is no text of a scalar, a seed of more than
    64 bits and a scale for which no window opens end the command line, and none of them is
    reported. -/
theorem run_escapes :
    let w := World.ofFile "r" [0x12, 0x00]
    ∀ args ∈ [["r", "scale=["], ["r", "seed=9223372036854775808"],
        ["r", "scale=40000000", "max_cycles=1"]],
      ∀ status, (transcribe w false args [0.0]).1.exit ≠ .ok status := by
  intro w args hargs status
  rw [exit_transcribe]
  have hescape : (exitOf w args).toOption = none := by
    revert args
    decide +kernel
  intro hexit
  rw [hexit] at hescape
  cases hescape

end CommandLine

end Chip8
