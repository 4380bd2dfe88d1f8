/-
  Chip8/Proofs/Tracing.lean
  =========================
  **The trace is a faithful record** — a headless run that is traced goes as it does untraced, and
  a console that shows messages for debugging prints one line for each step attempt, in order,
  from which the machine that the attempt was given and the word that it tried can be read.

  The loop traces the machines of `attempts` (`log_cyclesFrom`), the last of which is the one
  that failed, if one did (`length_attempts_of_failed`).  The trace looks the word up by a rule of
  its own, modulo the size of memory; where a word lies inside memory that is the word which the
  step fetches (`tells_ofMachine`).
-/
import Chip8.Proofs.Exits
import Chip8.Proofs.Hexadecimal

namespace Chip8

/-! ### What a trace tells -/

/-- An attempt at a word: it runs, or the machine waits with it, or it is refused. -/
inductive Machine.Tried (m : Machine) (word : Int) (decay : Bool) : Except Error Attempt → Prop where
  | runs (hcheck : m.check word = .ok ()) (hwaits : m.waitsOn word = false) :
    Tried m word decay (.ok ⟨(m.advance.execute word).tickIf decay, true⟩)
  | waits (hcheck : m.check word = .ok ()) (hwaits : m.waitsOn word = true) :
    Tried m word decay (.ok ⟨m, false⟩)
  | refused {e : Error} (hcheck : m.check word = .error e) : Tried m word decay (.error e)

theorem Machine.tried_peek {m : Machine} (hpc : m.pc.toNat + 1 < Memory.size) (decay : Bool) :
    m.Tried m.peek decay (m.step decay) := by
  have hstep := m.step_stepped decay
  generalize m.step decay = outcome at hstep
  cases hstep with
  | outside hout => exact absurd hpc (Nat.not_lt.2 hout)
  | refused _ hcheck => exact .refused hcheck
  | waiting _ hrun hwaits => exact .waits ((check_eq_ok_iff _).2 hrun) hwaits
  | running _ hrun hwaits => exact .runs ((check_eq_ok_iff _).2 hrun) hwaits

theorem eq_error_of_map {ε α β : Type} {f : α → β} {x : Except ε α} {e : ε}
    (h : x.map f = .error e) : x = .error e := by
  cases x with
  | error e' => exact congrArg Except.error (Except.error.inj h)
  | ok a => cases h

namespace Trace

open Chip8.Text

/-- A trace tells where a machine stands, and what it attempts there. -/
structure Tells (t : Trace) (m : Machine) (decay : Bool) : Prop where
  pc_eq : t.pc = m.pc.toNat
  index_eq : t.index = m.index.toNat
  depth_eq : t.depth = m.stack.depth.toInt
  word_eq : m.pc.toNat + 1 < Memory.size → t.word = m.peek
  tried : m.pc.toNat + 1 < Memory.size → m.Tried t.word decay (m.step decay)

theorem word_ofMachine {m : Machine} (hpc : m.pc.toNat + 1 < Memory.size) :
    (ofMachine m).word = m.peek := by
  have hnext : (m.pc + 1).toNat = m.pc.toNat + 1 := by
    have hone : (1 : UInt16).toNat = 1 := rfl
    have hpc : m.pc.toNat + 1 < 4096 := hpc
    rw [UInt16.toNat_add, hone]
    omega
  simp only [ofMachine, Machine.peek, hnext, Nat.mod_eq_of_lt hpc]

theorem tells_ofMachine (m : Machine) (decay : Bool) : (ofMachine m).Tells m decay where
  pc_eq := rfl
  index_eq := rfl
  depth_eq := rfl
  word_eq := word_ofMachine
  tried hpc := by
    rw [word_ofMachine hpc]
    exact m.tried_peek hpc decay

/-- The parts of a line between its blanks. -/
theorem cut_text (t : Trace) :
    cut ' ' t.text.toList =
      ["opcode:".toList, (Hex.padded 4 t.word).toList, [],
        "pc:".toList, (Hex.padded 3 t.pc).toList, [],
        "I:".toList, (Hex.padded 3 t.index).toList, [],
        "sp:".toList, (Hex.padded 1 t.depth).toList] := by
  have hline : t.text.toList =
      "opcode:".toList ++ ' ' :: ((Hex.padded 4 t.word).toList ++ ' ' :: ([] ++ ' ' ::
        ("pc:".toList ++ ' ' :: ((Hex.padded 3 t.pc).toList ++ ' ' :: ([] ++ ' ' ::
        ("I:".toList ++ ' ' :: ((Hex.padded 3 t.index).toList ++ ' ' :: ([] ++ ' ' ::
        ("sp:".toList ++ ' ' :: (Hex.padded 1 t.depth).toList))))))))) := by
    simp [text, toString]
  rw [hline, cut_append_cons (by decide), cut_append_cons (Hex.blank_not_mem_padded 4 _),
    cut_append_cons (by decide), cut_append_cons (by decide),
    cut_append_cons (Hex.blank_not_mem_padded 3 _), cut_append_cons (by decide),
    cut_append_cons (by decide), cut_append_cons (Hex.blank_not_mem_padded 3 _),
    cut_append_cons (by decide), cut_append_cons (by decide),
    cut_eq_singleton (Hex.blank_not_mem_padded 1 _)]

/-- The line of a trace determines it. -/
theorem text_injective {t u : Trace} (h : t.text = u.text) : t = u := by
  have hparts := cut_text t
  rw [h, cut_text] at hparts
  simp only [List.cons.injEq, String.toList_inj, true_and, and_true] at hparts
  obtain ⟨hword, hpc, hindex, hdepth⟩ := hparts
  have hword := Int.ofNat_inj.1 (Hex.padded_injective hword)
  have hpc := Int.ofNat_inj.1 (Hex.padded_injective hpc)
  have hindex := Int.ofNat_inj.1 (Hex.padded_injective hindex)
  have hdepth := Hex.padded_injective hdepth
  cases t
  cases u
  simp only at hword hpc hindex hdepth
  rw [hword, hpc, hindex, hdepth]

end Trace

/-! ### What a run traces -/

namespace Run

variable {mode : TimerMode} {i n k : Nat} {m x : Machine} {e : Error}

theorem log_cyclesFrom (traced : Bool) (completed : Nat) (log : List Trace) :
    (cyclesFrom mode traced n i completed log m).log =
      log.reverse ++ if traced then (attempts mode i n m).map Trace.ofMachine else [] := by
  induction n generalizing i completed log m with
  | zero => simp [cyclesFrom, attempts]
  | succ n ih =>
    simp only [cyclesFrom, attempts]
    cases mode.atCycle i m with
    | error e => simp
    | ok m =>
      simp only
      cases m.step mode.decays with
      | error e => cases traced <;> simp
      | ok a => cases traced <;> simp [ih]

/-- An attempt that fails is the last one. -/
theorem length_attempts_of_failed (hproper : mode.Proper) (hx : (attempts mode i n m)[k]? = some x)
    (hfailed : x.step mode.decays = .error e) :
    (attempts mode i n m).length = k + 1 ∧ after mode i n m = .error e := by
  induction n generalizing i m k with
  | zero => cases hx
  | succ n ih =>
    have hcycle := TimerMode.atCycle_eq hproper i m
    cases hstep : (mode.enter i m).step mode.decays with
    | error e' =>
      have honly : attempts mode i (n + 1) m = [mode.enter i m] := by
        simp only [attempts, hcycle, hstep]
      rw [honly] at hx ⊢
      cases k with
      | zero =>
        cases hx
        rw [hstep] at hfailed
        cases hfailed
        exact ⟨rfl, after_succ_of_error hcycle hstep⟩
      | succ k => cases hx
    | ok a =>
      rw [attempts_succ hcycle hstep] at hx ⊢
      rw [after_succ hcycle hstep]
      cases k with
      | zero =>
        cases hx
        rw [hstep] at hfailed
        cases hfailed
      | succ k =>
        obtain ⟨hlength, hafter⟩ := ih hx
        exact ⟨congrArg (· + 1) hlength, hafter⟩

/-- An attempt is given the machine that the cycles before it have left, when its own cycle has
    begun. -/
theorem exists_before (hx : (attempts mode i n m)[k]? = some x) :
    ∃ before, after mode i k m = .ok before ∧ mode.atCycle (i + k) before = .ok x := by
  induction n generalizing i m k with
  | zero => cases hx
  | succ n ih =>
    simp only [attempts] at hx
    cases hcycle : mode.atCycle i m with
    | error e =>
      rw [hcycle] at hx
      cases hx
    | ok m₁ =>
      simp only [hcycle] at hx
      cases k with
      | zero =>
        cases hx
        exact ⟨m, rfl, hcycle⟩
      | succ k =>
        rw [List.getElem?_cons_succ] at hx
        cases hstep : m₁.step mode.decays with
        | error e =>
          rw [hstep] at hx
          cases hx
        | ok a =>
          simp only [hstep] at hx
          obtain ⟨before, hafter, hbegun⟩ := ih hx
          refine ⟨before, ?_, ?_⟩
          · rw [after_succ hcycle hstep, hafter]
          · rw [← hbegun]
            congr 1
            omega

/-- The machines that the step attempts of a run are given; more cycles than can be counted are
    refused before the first attempt. -/
def tries (mode : TimerMode) (n : Nat) (m : Machine) : List Machine :=
  if countLimit ≤ (n : Int) then [] else attempts mode 0 n m

theorem log_cycles (mode : TimerMode) (n : Nat) (m : Machine) :
    (cycles mode true n m).log = (tries mode n m).map Trace.ofMachine := by
  unfold cycles tries
  split
  · rfl
  · rw [log_cyclesFrom]
    rfl

theorem exists_before_try (hx : (tries mode n m)[k]? = some x) :
    ∃ before completed, (cycles mode false k m).result = .ok (before, completed) ∧
      mode.atCycle k before = .ok x := by
  unfold tries at hx
  split at hx
  · cases hx
  next hcount =>
  have hk : k < n := by
    have hlength := (List.getElem?_eq_some_iff.1 hx).1
    exact Nat.lt_of_lt_of_le hlength (length_attempts_le mode 0 n m)
  obtain ⟨before, hafter, hbegun⟩ := exists_before hx
  have hresult : (cycles mode false k m).result = _ := result_cycles (by omega) false
  rw [Int.toNat_natCast, hafter] at hresult
  rw [Nat.zero_add] at hbegun
  exact ⟨before, _, hresult, hbegun⟩

theorem length_tries {last : Machine × Nat} (h : (cycles mode true n m).result = .ok last) :
    (tries mode n m).length = n := by
  obtain ⟨hcount, hafter, -⟩ := result_cycles_eq_ok h
  rw [tries, if_neg (Int.not_le.2 hcount)]
  exact length_attempts hafter

theorem length_tries_of_failed (hproper : mode.Proper) (hx : (tries mode n m)[k]? = some x)
    (hfailed : x.step mode.decays = .error e) :
    (tries mode n m).length = k + 1 ∧ (cycles mode true n m).result = .error e := by
  unfold tries at hx ⊢
  split at hx
  · cases hx
  next hcount =>
  rw [if_neg hcount, result_cycles (Int.not_le.1 hcount), Int.toNat_natCast]
  obtain ⟨hlength, hafter⟩ := length_attempts_of_failed hproper hx hfailed
  rw [hafter]
  exact ⟨hlength, rfl⟩

/-- A run that fails, and is not refused, has made an attempt that fails. -/
theorem exists_failed_try (hproper : mode.Proper) (h : (cycles mode true n m).result = .error e)
    (hcount : (n : Int) < countLimit) :
    ∃ (k : Nat) (x : Machine), (tries mode n m)[k]? = some x ∧ x.step mode.decays = .error e := by
  rw [result_cycles hcount, Int.toNat_natCast] at h
  obtain ⟨x, hx, hfailed⟩ := exists_failed hproper (eq_error_of_map h)
  obtain ⟨k, hk⟩ := List.getElem?_of_mem hx
  rw [tries, if_neg (Int.not_le.2 hcount)]
  exact ⟨k, x, hk, hfailed⟩

end Run

/-! ### What a console prints -/

namespace Console

open Transcript (Calm terminal)

variable {console : Console} {t : Transcript}

/-- A line of a console that ends with the text of a trace of an attempt.  Before it stands what
    does not depend on the trace, so that the line is that of no other trace. -/
def Records (c : Console) (decay : Bool) (x : Machine) (line : String) : Prop :=
  ∃ (entry : Trace) (elapsed : Option Float),
    line = c.head elapsed "DEBUG" ++ entry.text ∧ elapsed.isSome = c.timestamps ∧
    (∀ other : Trace, line = c.head elapsed "DEBUG" ++ other.text → other = entry) ∧
    entry.Tells x decay

theorem records_line {elapsed : Option Float} (htime : elapsed.isSome = console.timestamps)
    (x : Machine) (decay : Bool) :
    console.Records decay x (console.line elapsed "DEBUG" (Trace.ofMachine x).text) :=
  ⟨Trace.ofMachine x, elapsed, line_eq_iff.2 rfl, htime,
    fun _ hother => Trace.text_injective (line_eq_iff.1 hother).symm, Trace.tells_ofMachine x decay⟩

/-- The line that records an attempt at a word, but for the time in it. -/
theorem Records.exists_line {decay : Bool} {x : Machine} {line : String}
    (h : console.Records decay x line) (hpc : x.pc.toNat + 1 < Memory.size) :
    ∃ elapsed : Option Float, elapsed.isSome = console.timestamps ∧
      line = console.head elapsed "DEBUG" ++
        (Trace.mk x.peek x.pc.toNat x.index.toNat x.stack.depth.toInt).text := by
  obtain ⟨entry, elapsed, hline, htime, -, htells⟩ := h
  obtain ⟨word, pc, index, depth⟩ := entry
  obtain ⟨rfl, rfl, rfl, hword, -⟩ := htells
  refine ⟨elapsed, htime, ?_⟩
  rw [hline, ← hword hpc]

/-- A message that is shown is the next line of a transcript. -/
theorem prints_log (interactive : Bool) (ht : Calm t) {y : Float}
    (hstart : console.start = .real y) {level : String} (hshows : console.shows level = true)
    (message : String) :
    ∃ elapsed, elapsed.isSome = console.timestamps ∧
      ((console.log (terminal interactive) level message).run t).2.lines =
        console.line elapsed level message :: t.lines := by
  cases htime : console.timestamps with
  | true =>
    obtain ⟨elapsed, hlines⟩ := lines_log interactive ht hstart hshows htime message
    exact ⟨some elapsed, rfl, hlines⟩
  | false =>
    refine ⟨none, rfl, ?_⟩
    rw [log, if_pos hshows, htime]
    exact congrArg (fun r => r.2.lines) (Transcript.run_putLine ht.printed _)

/-- The traces of a list of machines are printed line by line. -/
theorem prints_traces (interactive : Bool) (ht : Calm t) {y : Float}
    (hstart : console.start = .real y) (hshows : console.shows "DEBUG" = true)
    (decay : Bool) (machines : List Machine) :
    ∃ lines, (((machines.map Trace.ofMachine).forM
        (console.trace (terminal interactive))).run t).2.lines = lines.reverse ++ t.lines ∧
      List.Forall₂ (console.Records decay) machines lines := by
  induction machines generalizing t with
  | nil => exact ⟨[], rfl, .nil⟩
  | cons x machines ih =>
    obtain ⟨elapsed, htime, hline⟩ :=
      prints_log interactive ht hstart hshows (Trace.ofMachine x).text
    have hcalm : Calm ((console.trace (terminal interactive) (Trace.ofMachine x)).run t).2 :=
      (calm_log hstart _ _ t ht).1
    obtain ⟨lines, hlines, hall⟩ := ih hcalm
    refine ⟨_ :: lines, ?_, .cons (records_line htime x decay) hall⟩
    rw [List.reverse_cons, List.append_assoc]
    exact hlines.trans (congrArg (lines.reverse ++ ·) hline)

/-- A console that is opened for debugging shows the messages of a run. -/
theorem shows_of_debug {level : String} (hlevel : Text.uppercase level = "DEBUG")
    (hopened : console.level = Text.uppercase level) : console.shows "DEBUG" = true := by
  have hrank : Log.rank console.level = 0 := by
    rw [hopened, hlevel]
    decide
  simp [shows, hrank]

end Console

namespace Run

open Transcript (Calm terminal)

/-- **The trace is a faithful record.**  A run ends traced as it does untraced.  Every attempt is
    given what the cycles before it have left; there is one in every cycle if the run returns, and
    none after the one that failed if it does not.  A console that is opened for debugging, on a
    terminal with an ordinary clock, prints one line for each attempt, in order, which records
    the attempt. -/
theorem cycles_trace_attempts (mode : TimerMode) (hproper : mode.Proper) (n : Nat) (m : Machine) :
    let run := cycles mode true n m
    let tried := tries mode n m
    run.result = (cycles mode false n m).result ∧
    (∀ (k : Nat) x, tried[k]? = some x → ∃ before completed,
      (cycles mode false k m).result = .ok (before, completed) ∧
        mode.atCycle k before = .ok x) ∧
    (∀ last, run.result = .ok last → tried.length = n) ∧
    (∀ (k : Nat) x e, tried[k]? = some x → x.step mode.decays = .error e →
      tried.length = k + 1 ∧ run.result = .error e) ∧
    (∀ e, run.result = .error e → (n : Int) < countLimit →
      ∃ (k : Nat) (x : Machine), tried[k]? = some x ∧ x.step mode.decays = .error e) ∧
    ∀ (name level : String) (colours timestamps interactive : Bool) (t : Transcript),
      Text.uppercase level = "DEBUG" → Calm t →
      let opened := (Console.openOn (terminal interactive) name level colours timestamps).run t
      ∃ lines, ((run.log.forM (opened.1.trace (terminal interactive))).run opened.2).2.lines =
          lines.reverse ++ t.lines ∧
        List.Forall₂ (opened.1.Records mode.decays) tried lines := by
  intro run tried
  refine ⟨result_cycles_eq mode true false n m, fun k x => exists_before_try,
    fun last => length_tries, fun k x e => length_tries_of_failed hproper,
    fun e => exists_failed_try hproper, ?_⟩
  intro name level colours timestamps interactive t hlevel ht opened
  obtain ⟨hcalm, y, hstart⟩ : Calm opened.2 ∧ ∃ y, opened.1.start = .real y :=
    Transcript.calm_now t ht
  have hlog : run.log = tried.map Trace.ofMachine := log_cycles mode n m
  obtain ⟨lines, hlines, hall⟩ := Console.prints_traces interactive hcalm hstart
    (Console.shows_of_debug hlevel rfl) mode.decays tried
  refine ⟨lines, ?_, hall⟩
  rw [hlog, hlines]
  exact congrArg (lines.reverse ++ ·) (Transcript.lines_now t)

/-- A program of one word comes to the zeros behind it: its second attempt fails, and both are
    shown. -/
theorem cycles_trace_attempts_into_zeros :
    let m : Machine :=
      { Machine.initial ⟨0, 0⟩ with memory := Cells.writeAll Memory.withFont 0x200 [0x60, 0x07] }
    let opened : Console × Transcript :=
      (Console.openOn (terminal false) "chip8vm" "debug" true false).run { clock := [] }
    let run := cycles (.perFrame 2) true (3 : Nat) m
    run.result = .error (.unknownOpcode 0 0x202) ∧
      (cycles (.perFrame 2) false (3 : Nat) m).result = .error (.unknownOpcode 0 0x202) ∧
      (tries (.perFrame 2) 3 m).length = 2 ∧
      ((run.log.forM (opened.1.trace (terminal false))).run opened.2).2.lines =
        ["[   DEBUG][chip8vm] opcode: 0000  pc: 202  I: 000  sp: 0",
          "[   DEBUG][chip8vm] opcode: 6007  pc: 200  I: 000  sp: 0"] := by
  intro m opened run
  have hproper : (TimerMode.perFrame 2).Proper := by
    change (1 : Int) ≤ 2
    decide
  have hdebug : Text.uppercase "debug" = "DEBUG" := by decide
  obtain ⟨hsame, -, -, hfailed, -, hprints⟩ :=
    cycles_trace_attempts (.perFrame 2) hproper 3 m
  obtain ⟨lines, hlines, hrecords⟩ :=
    hprints "chip8vm" "debug" true false false { clock := [] } hdebug ⟨rfl, nofun⟩
  have hseen : (tries (.perFrame 2) 3 m).map (fun x =>
      (x.pc.toNat, x.index.toNat, x.stack.depth.toInt, x.peek, (x.step false).map fun _ => ())) =
        [(0x200, 0, 0, 0x6007, .ok ()),
          (0x202, 0, 0, 0, .error (.unknownOpcode 0 0x202))] := by decide +kernel
  obtain ⟨first, rest, htried, hfirst, hrest⟩ := List.map_eq_cons_iff.1 hseen
  obtain ⟨second, nothing, rfl, hsecond, hnothing⟩ := List.map_eq_cons_iff.1 hrest
  obtain rfl := List.map_eq_nil_iff.1 hnothing
  simp only [Prod.mk.injEq] at hfirst hsecond
  obtain ⟨hpc₁, hindex₁, hdepth₁, hword₁, -⟩ := hfirst
  obtain ⟨hpc₂, hindex₂, hdepth₂, hword₂, hstep⟩ := hsecond
  obtain ⟨hlength, hresult⟩ := hfailed 1 second _ (by rw [htried]; rfl) (eq_error_of_map hstep)
  refine ⟨hresult, hsame ▸ hresult, hlength, ?_⟩
  rw [htried] at hrecords
  cases hrecords with
  | @cons _ line₁ _ _ hrecord₁ hrecords =>
    cases hrecords with
    | @cons _ line₂ _ _ hrecord₂ hrecords =>
      cases hrecords
      obtain ⟨time₁, htime₁, rfl⟩ := hrecord₁.exists_line (by rw [hpc₁]; decide)
      obtain ⟨time₂, htime₂, rfl⟩ := hrecord₂.exists_line (by rw [hpc₂]; decide)
      have htimeless : ∀ time : Option Float, time.isSome = opened.1.timestamps → time = none :=
        fun time h => Option.not_isSome_iff_eq_none.1 (by rw [h]; exact Bool.false_ne_true)
      refine hlines.trans ?_
      rw [htimeless _ htime₁, htimeless _ htime₂, hpc₁, hindex₁, hdepth₁, hword₁, hpc₂, hindex₂,
        hdepth₂, hword₂]
      decide +kernel

end Run

end Chip8
