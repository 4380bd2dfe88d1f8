/-
  Chip8/Proofs/Safety.lean
  ========================
  **Settings that load cannot break a run** — with a program that fits and settings that were
  checked, a run ends as it should or with a fault of the program, which says where the
  machine stood; no operation of the two loops is given an argument that it refuses.

  What the loops pass on was checked elsewhere: keys by the table of the keyboard, scale, scheme
  and frames by the sanity checks, the number of cells by the type of a screen, words by the
  check of the step.  What is left are numbers without an upper bound in the settings: windows,
  rates and pictures that a host refuses, and more cycles than can be counted.
-/
import Chip8.Program
import Chip8.Proofs.Agreement
import Chip8.Proofs.Bounds
import Chip8.Proofs.Composition
import Chip8.Proofs.Frames
import Chip8.Proofs.Printing

namespace Chip8

/-! ### Failures -/

/-- The failures of operations that were given what they refuse: a key, a scale, cells, a scheme
    or a colour that is none, or frames of no cycles. -/
def Error.isMisuse : Error → Bool
  | noSuchKey _ | badScale _ | badCellCount _ | unknownScheme _ | colourOutOfRange | emptyFrame =>
    true
  | _ => false

namespace Machine

variable {m : Machine} {decay : Bool} {e : Error}

/-- The faults of the program in a machine.  Each names the program counter, and an unknown word
    is the one that stands there, high half first. -/
inductive Faults (m : Machine) : Error → Prop where
  | outside (hpc : 4096 ≤ m.pc.toNat + 1) : Faults m (.fetchOutOfMemory m.pc.toNat)
  | unknown {high low : Fin 4096} {word : Nat} (hhigh : high.val = m.pc.toNat)
    (hlow : low.val = m.pc.toNat + 1)
    (hword : word = 256 * m.memory[high].toNat + m.memory[low].toNat)
    (hunknown : Opcode.known word = false) : Faults m (.unknownOpcode word m.pc.toNat)
  | underflow (hret : m.peek = 0x00EE) (hdepth : m.stack.depth = 0) :
    Faults m (.stackUnderflow m.pc.toNat)
  | overflow (hcall : (Opcode.ofWord m.peek).family = 0x2) (hdepth : 16 ≤ m.stack.depth.toInt) :
    Faults m (.stackOverflow m.pc.toNat)

theorem faults_of_step (h : m.step decay = .error e) : m.Faults e := by
  have hstep := m.step_stepped decay
  rw [h] at hstep
  cases hstep with
  | outside hpc => exact .outside hpc
  | refused hpc hcheck =>
    rcases check_eq_error_iff.1 hcheck with
      ⟨hunknown, rfl⟩ | ⟨hret, hdepth, rfl⟩ | ⟨hcall, hdepth, rfl⟩
    · let high : Fin 4096 := ⟨m.pc.toNat, Nat.lt_of_succ_lt hpc⟩
      let low : Fin 4096 := ⟨m.pc.toNat + 1, hpc⟩
      have hword : m.peek = 256 * m.memory[high].toNat + m.memory[low].toNat := (peek_eq hpc).2
      exact .unknown rfl rfl hword hunknown
    · exact .underflow (Int.ofNat_inj.1 hret) hdepth
    · exact .overflow hcall hdepth

theorem Faults.isMisuse (h : m.Faults e) : e.isMisuse = false := by
  cases h <;> rfl

/-- The machine that starts with a program. -/
def booted (rng : Random.Key) (image : List UInt8) : Machine :=
  { initial rng with memory := Cells.writeAll Memory.withFont Memory.programStart image }

theorem loadProgram_booted {rng : Random.Key} {image : List UInt8}
    (h : image.length ≤ Memory.programCapacity) :
    (initial rng).loadProgram image = .ok (booted rng image) :=
  if_neg (Nat.not_lt.2 h)

end Machine

/-- A run has ended well, or with a fault of the program in a machine that a step was given, or
    with one of the refusals that are left. -/
def Safe (given : Machine → Prop) (decay : Bool) (refused : Error → Prop) :
    Except Error (Machine × Nat) → Prop
  | .ok _ => True
  | .error e =>
    e.isMisuse = false ∧
      ((∃ x, given x ∧ x.step decay = .error e ∧ x.Faults e) ∨ refused e)

theorem safe_of_step {given : Machine → Prop} {decay : Bool} {refused : Error → Prop} {e : Error}
    {x : Machine} (hx : given x) (h : x.step decay = .error e) :
    Safe given decay refused (.error e) := by
  have hfaults := Machine.faults_of_step h
  exact ⟨hfaults.isMisuse, Or.inl ⟨x, hx, h, hfaults⟩⟩

/-! ### Headless runs -/

namespace Run

variable {mode : TimerMode} {i n : Nat} {m : Machine} {e : Error}

theorem exists_failed (hproper : mode.Proper) (h : after mode i n m = .error e) :
    ∃ x ∈ attempts mode i n m, x.step mode.decays = .error e := by
  induction n generalizing i m with
  | zero => cases h
  | succ n ih =>
    have hcycle := TimerMode.atCycle_eq hproper i m
    cases hstep : (mode.enter i m).step mode.decays with
    | error e' =>
      rw [after_succ_of_error hcycle hstep] at h
      cases h
      refine ⟨mode.enter i m, ?_, hstep⟩
      simp only [attempts, hcycle]
      exact List.mem_cons_self ..
    | ok a =>
      rw [after_succ hcycle hstep] at h
      obtain ⟨x, hx, hfailed⟩ := ih h
      refine ⟨x, ?_, hfailed⟩
      rw [attempts_succ hcycle hstep]
      exact List.mem_cons_of_mem _ hx

theorem safe_cycles (hproper : mode.Proper) (traced : Bool) (count : Int) (m : Machine) :
    Safe (· ∈ attempts mode 0 count.toNat m) mode.decays
      (fun e => countLimit ≤ count ∧ e = .countOutOfRange) (cycles mode traced count m).result := by
  by_cases hcount : count < countLimit
  · rw [result_cycles hcount]
    cases hrun : after mode 0 count.toNat m with
    | ok m' => exact trivial
    | error e =>
      obtain ⟨x, hx, hfailed⟩ := exists_failed hproper hrun
      exact safe_of_step hx hfailed
  · have hcount := Int.not_lt.1 hcount
    rw [cycles, if_pos hcount]
    exact ⟨rfl, Or.inr ⟨hcount, rfl⟩⟩

end Run

/-! ### Runs in a window -/

/-- What is too large for a picture is told by one of three errors. -/
theorem Picture.refusal?_eq_some {host : Host} {scale : Int} {e : Error}
    (h : refusal? host scale = some e) :
    e ∈ [Error.scaleOutOfRange, .pictureOutOfRange, .pictureTooLarge] := by
  unfold refusal? at h
  repeat' split at h
  all_goals cases h <;> decide

namespace Window

variable {host : Host} {c : Settings} {colours : Scheme} {script : List Poll} {m : Machine}
  {p : Nat} {e : Error}

/-- What a host refuses is neither misuse of an operation nor a fault of the program. -/
theorem Refuses.outside (h : Refuses host c e) : e.isMisuse = false ∧ e.isFault = false := by
  have hrefused : ∀ {r : Option Refusal} {e : Error}, r.map Error.refused = some e →
      e.isMisuse = false ∧ e.isFault = false := by
    intro r e h
    obtain ⟨_, -, rfl⟩ := Option.map_eq_some_iff.1 h
    exact ⟨rfl, rfl⟩
  cases h with
  | window h => exact hrefused h
  | pace => exact ⟨rfl, rfl⟩
  | picture h =>
    rcases Option.or_eq_some_iff.1 h with h | ⟨-, h⟩
    · have htold := Picture.refusal?_eq_some h
      simp only [List.mem_cons, List.not_mem_nil, or_false] at htold
      rcases htold with rfl | rfl | rfl <;> exact ⟨rfl, rfl⟩
    · exact hrefused h

/-- A step of a run was given the machine. -/
def Attempted (host : Host) (c : Settings) (script : List Poll) (m x : Machine) : Prop :=
  ∃ p events, (polls script)[p]? = some events ∧ events.any Event.stops = false ∧
    GoesOn host c script m p ∧ x ∈ (after host c script m p).attemptsIn c events

/-- A turn fails with one of its steps, or with its picture. -/
theorem Session.failed_turn {s : Session} {events : Poll} (hc : c.Valid)
    (hopen : Opens host c colours) (hs : s.status = .running)
    (h : (s.turn host c colours events).status = .failed e) :
    (events.any Event.stops = false ∧
        ∃ x ∈ s.attemptsIn c events, x.step c.mode.decays = .error e) ∨
      pictureRefusal? host c = some e := by
  obtain ⟨k, hk⟩ := poll_eq s events
  cases hstops : events.any Event.stops with
  | true =>
    rw [turn_of_stops hopen.paceRefusal?_eq hs hstops, hk, hstops] at h
    cases h
  | false =>
    have hrunning : ((s.poll events).beat c).status = .running := by
      rw [hk, hstops]
      rfl
    rw [turn_of_not_stops hopen.paceRefusal?_eq hs hstops, play] at h
    split at h
    · next e' hfailed =>
      rw [h] at hfailed
      exact Or.inl ⟨rfl, (failed_burst_iff _ hrunning).1 h⟩
    · next hfailed =>
      have hpresent := present_presents host hc.scale_pos hopen.mem_all
        (((s.poll events).beat c).burst c c.cyclesPerFrame.toNat)
      generalize Session.present host c colours _ = s' at hpresent h
      cases hpresent with
      | clean => exact absurd h (hfailed e)
      | shown => exact absurd h (hfailed e)
      | refused _ hrefusal =>
        cases h
        exact Or.inr hrefusal

theorem failed_after (hc : c.Valid) (hopen : Opens host c colours) (hp : p ≤ script.length + 1)
    (h : (after host c script m p).status = .failed e) :
    (∃ x, Attempted host c script m x ∧ x.step c.mode.decays = .error e) ∨
      pictureRefusal? host c = some e := by
  induction p with
  | zero =>
    rw [after_zero hopen] at h
    cases h
  | succ p ih =>
    obtain ⟨events, hevents⟩ := exists_poll hp
    by_cases hs : (after host c script m p).status = .running
    · rw [after_succ hopen hevents] at h
      rcases Session.failed_turn hc hopen hs h with ⟨hstops, x, hx, hstep⟩ | hrefusal
      · have hgoes : GoesOn host c script m p := ⟨hs, hopen.paceRefusal?_eq⟩
        exact Or.inl ⟨x, ⟨p, events, hevents, hstops, hgoes, hx⟩, hstep⟩
      · exact Or.inr hrefusal
    · rw [after_of_not_running hopen hs (Nat.le_succ p)] at h
      exact ih (by omega) h

theorem safe_run (hc : c.Valid) (host : Host) (script : List Poll) (m : Machine) :
    Safe (Attempted host c script m) c.mode.decays (Refuses host c)
      (run host c script m).result := by
  rcases opens_or_refused host hc with ⟨colours, hopen⟩ | ⟨e, hrefuses, hrun⟩
  · rw [run_eq_after, Session.result]
    split
    · next e hfailed =>
      rcases failed_after hc hopen (Nat.le_refl _) hfailed with ⟨x, hx, hstep⟩ | hpicture
      · exact safe_of_step hx hstep
      · have hrefuses : Refuses host c e := .picture hpicture
        exact ⟨hrefuses.outside.1, Or.inr hrefuses⟩
    · exact trivial
  · rw [hrun]
    exact ⟨hrefuses.outside.1, Or.inr hrefuses⟩

end Window

/-! ### Settings that load -/

namespace Settings

variable {p : Loader} {overrides : List String} {c : Settings}

/-- **Settings that load cannot break a run.** -/
theorem load_safe (h : load p overrides = .ok c) (rng : Random.Key) (image : List UInt8)
    (hfits : image.length ≤ Memory.programCapacity) (host : Host) (script : List Window.Poll)
    (traced : Bool) :
    ∃ m, (Machine.initial rng).loadProgram image = .ok m ∧
      (c.headless = true →
        Safe (· ∈ Run.attempts c.mode 0 c.maxCycles.toNat m) c.mode.decays
          (fun e => Run.countLimit ≤ c.maxCycles ∧ e = .countOutOfRange)
          (Run.cycles c.mode traced c.maxCycles m).result) ∧
      (c.headless = false →
        Safe (Window.Attempted host c script m) c.mode.decays (Window.Refuses host c)
          (Window.run host c script m).result) := by
  have hc := valid_of_load h
  refine ⟨_, Machine.loadProgram_booted hfits, ?_, ?_⟩
  · intro _
    exact Run.safe_cycles (mode_proper hc) traced c.maxCycles _
  · intro _
    exact Window.safe_run hc host script _

/-- A return with no call to return from: headless in frames, and in a window in which a key goes
    down first, a run ends with the fault of the machine that stands at it. -/
theorem load_safe_of_return :
    let flat : Settings := { timerMode := "frame", headless := true, maxCycles := 16 }
    let framed : Settings := { scale := 2, colorScheme := "amber" }
    let host := Window.usualHost
    let script : List Window.Poll := [[.keyDown "q"]]
    let fault : Error := .stackUnderflow 0x202
    load usualLoader ["headless=true", "max_cycles=0x10", "timer_mode=frame"] = .ok flat ∧
      load usualLoader ["color_scheme=amber", "scale=2"] = .ok framed ∧
      ∃ m, (Machine.initial ⟨0, 0⟩).loadProgram [0x00, 0xE0, 0x00, 0xEE] = .ok m ∧
        (∃ x ∈ Run.attempts flat.mode 0 16 m,
          (Run.cycles flat.mode false 16 m).result = .error fault ∧ x.Faults fault) ∧
        ∃ x, Window.Attempted host framed script m x ∧
          (Window.run host framed script m).result = .error fault ∧ x.Faults fault := by
  intro flat framed host script fault
  have hflat : load usualLoader ["headless=true", "max_cycles=0x10", "timer_mode=frame"] =
      .ok flat :=
    load_eq_ok_of_toOption (by decide +kernel)
  have hframed : load usualLoader ["color_scheme=amber", "scale=2"] = .ok framed :=
    load_eq_ok_of_toOption (by decide +kernel)
  obtain ⟨m, hm, hsafe, -⟩ :=
    load_safe hflat ⟨0, 0⟩ [0x00, 0xE0, 0x00, 0xEE] (by decide) host script false
  obtain ⟨m', hm', -, hsafe'⟩ :=
    load_safe hframed ⟨0, 0⟩ [0x00, 0xE0, 0x00, 0xEE] (by decide) host script false
  obtain rfl : m' = m := Except.ok.inj (hm'.symm.trans hm)
  have hmachine : Machine.booted ⟨0, 0⟩ [0x00, 0xE0, 0x00, 0xEE] = m' :=
    Except.ok.inj ((Machine.loadProgram_booted (by decide)).symm.trans hm)
  have hresult : (Run.cycles flat.mode false 16 m').result = .error fault := by
    rw [← hmachine]
    decide +kernel
  have hresult' : (Window.run host framed script m').result = .error fault := by
    have hstatus : (Window.run host framed script m').status = .failed fault := by
      rw [← hmachine]
      decide +kernel
    rw [Window.Session.result, hstatus]
  rw [hresult'] at hsafe'
  have hend : Safe _ _ _ (Run.cycles flat.mode false 16 m').result := hsafe rfl
  rw [hresult] at hend
  obtain ⟨-, ⟨x, hx, -, hfaults⟩ | ⟨hcount, -⟩⟩ := hend
  · obtain ⟨-, ⟨x', hx', -, hfaults'⟩ | hrefuses⟩ := hsafe' rfl
    · exact ⟨hflat, hframed, m', hm, ⟨x, hx, hresult, hfaults⟩, x', hx', hresult', hfaults'⟩
    · exact absurd hrefuses.outside.2 (by decide)
  · exact absurd hcount (by decide)

/-- A rate in hexadecimal digits is loaded, however many there are. -/
theorem load_hex_rate (p : Loader) {n : Nat} (hn : 0 < n) :
    load p ["max_cycles=1", "fps=" ++ String.ofList ('0' :: 'x' :: List.replicate n 'f')] =
      .ok { fps := (16 ^ n - 1 : Nat), maxCycles := 1 } := by
  have hfits := readsAs_hex hn
  generalize String.ofList ('0' :: 'x' :: List.replicate n 'f') = digits at hfits ⊢
  have hflat : Valid { maxCycles := 1 } := (complaint?_eq_none_iff _).1 (by decide)
  have hvalid : Valid { fps := (16 ^ n - 1 : Nat), maxCycles := 1 } :=
    { hflat with fps_pos := one_le_hex hn }
  have hload : load p (([⟨.maxCycles, "1", .int 1⟩, ⟨.fps, digits, .int (16 ^ n - 1 : Nat)⟩] :
      List Reading).map Reading.override) = .ok { fps := (16 ^ n - 1 : Nat), maxCycles := 1 } := by
    refine load_readings p (fun r hr => ?_) (fun f hf => ?_) hvalid
    · simp only [List.mem_cons, List.not_mem_nil, or_false] at hr
      rcases hr with rfl | rfl
      · exact readsAs_integer (i := 1) (by decide +kernel)
      · exact hfits
    · cases f <;> first | rfl | simp at hf
  exact hload

/-- **Limits of the safety of settings.**  They have no upper bounds: with squares of 40 million
    pixels a side no window opens, 16²⁵⁶ - 1 pictures per second cannot be waited for, with squares
    of 2⁵² pixels the first picture has more bytes than can be counted, and 2⁶³ cycles cannot be
    counted. -/
theorem load_unsafe :
    let wide : Settings := { scale := 40000000, maxCycles := 1 }
    let fast : Settings := { fps := (16 ^ 256 - 1 : Nat), maxCycles := 1 }
    let large : Settings := { scale := 0x10000000000000, maxCycles := 1 }
    let long : Settings := { headless := true, maxCycles := 0x8000000000000000 }
    let host := Window.usualHost
    (load usualLoader ["scale=40000000", "max_cycles=1"] = .ok wide ∧
      ∃ m, (Machine.initial ⟨0, 0⟩).loadProgram [0x12, 0x00] = .ok m ∧
        (Window.run host wide [[]] m).result = .error (.refused ⟨"error"⟩)) ∧
    (load usualLoader
        ["max_cycles=1", "fps=" ++ String.ofList ('0' :: 'x' :: List.replicate 256 'f')] =
        .ok fast ∧
      ∃ m, (Machine.initial ⟨0, 0⟩).loadProgram [0x12, 0x00] = .ok m ∧
        (Window.run host fast [[]] m).result = .error (.refused ⟨"OverflowError"⟩)) ∧
    (load usualLoader ["scale=4503599627370496", "max_cycles=1"] = .ok large ∧
      ∃ m, (Machine.initial ⟨0, 0⟩).loadProgram [0x00, 0xE0] = .ok m ∧
        (Window.run host large [[]] m).result = .error .pictureOutOfRange) ∧
    (load usualLoader ["headless=true", "max_cycles=9223372036854775808"] = .ok long ∧
      ∃ m, (Machine.initial ⟨0, 0⟩).loadProgram [0x00, 0x00] = .ok m ∧
        (Run.cycles long.mode false long.maxCycles m).result = .error .countOutOfRange) := by
  intro wide fast large long host
  have hwide : load usualLoader ["scale=40000000", "max_cycles=1"] = .ok wide :=
    load_eq_ok_of_toOption (by decide +kernel)
  have hfast : load usualLoader
      ["max_cycles=1", "fps=" ++ String.ofList ('0' :: 'x' :: List.replicate 256 'f')] =
      .ok fast :=
    load_hex_rate usualLoader (by decide)
  have hlarge : load usualLoader ["scale=4503599627370496", "max_cycles=1"] = .ok large :=
    load_eq_ok_of_toOption (by decide +kernel)
  have hlong : load usualLoader ["headless=true", "max_cycles=9223372036854775808"] = .ok long :=
    load_eq_ok_of_toOption (by decide +kernel)
  refine ⟨⟨hwide, _, Machine.loadProgram_booted (by decide), ?_⟩,
    ⟨hfast, _, Machine.loadProgram_booted (by decide), ?_⟩,
    ⟨hlarge, _, Machine.loadProgram_booted (by decide), ?_⟩,
    ⟨hlong, _, Machine.loadProgram_booted (by decide), rfl⟩⟩
  · have hrefusal : Window.refusal? host wide = some (.refused ⟨"error"⟩) := by decide
    rw [Window.run_eq_after, Window.after_of_refusal? hrefusal]
    rfl
  · have hpace : host.paceRefusal? fast.fps = some ⟨"OverflowError"⟩ := by decide +kernel
    rw [Window.run_of_paceRefusal? (valid_of_load hfast) (by decide) hpace]
    rfl
  · have hstatus : (Window.run host large [[]] (Machine.booted ⟨0, 0⟩ [0x00, 0xE0])).status =
        .failed .pictureOutOfRange := by
      decide +kernel
    rw [Window.Session.result, hstatus]

end Settings

end Chip8
