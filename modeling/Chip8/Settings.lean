/-
  Chip8/Settings.lean
  ===================
  **Settings of a run** — ten named fields with defaults, each an integer, a text
  or a truth value, and the conditions under which they make sense together.
-/
import Chip8.Log
import Chip8.Run
import Chip8.Text.Numeral

namespace Chip8

/-- Everything that can be set for a run. -/
structure Settings where
  /-- Pixels per side of a cell. -/
  scale : Int := 8
  /-- Step attempts between two pictures. -/
  cyclesPerFrame : Int := 10
  /-- Pictures per second. -/
  fps : Int := 60
  /-- What the timers follow. -/
  timerMode : String := "cycle"
  colorScheme : String := "white"
  /-- Seed of the random stream. -/
  seed : Int := 0
  logLevel : String := "INFO"
  /-- Log every step attempt. -/
  trace : Bool := false
  /-- Run without a window. -/
  headless : Bool := false
  /-- Step attempts in all; zero means no limit. -/
  maxCycles : Int := 0
  deriving DecidableEq, Repr

namespace Settings

/-- The names of the timer modes. -/
def timerModes : List String := [TimerMode.instructionName, "frame"]

/-- Why settings make no sense. -/
inductive Invalid where
  /-- A number that has to be positive. -/
  | notPositive (name : String) (value : Int)
  /-- A limit below zero. -/
  | negativeLimit (value : Int)
  | unknownTimerMode (name : String)
  | unknownScheme (name : String)
  | unknownLevel (name : String)
  /-- A run without a window and without a limit would never end. -/
  | endless
  deriving DecidableEq, Repr

/-- The text of a complaint about settings. -/
def Invalid.message : Invalid → String
  | notPositive name value => s!"{name} must be at least 1, got {value}"
  | negativeLimit value => s!"max_cycles must be non-negative, got {value}"
  | unknownTimerMode name => s!"timer_mode must be one of ({quotedList timerModes}), got '{name}'"
  | unknownScheme name => unknownSchemeText name
  | unknownLevel name => s!"log_level must be one of ({quotedList Log.levels}), got '{name}'"
  | endless => "headless runs need max_cycles > 0"

/-- The text of a complaint does not hold an integer that is too long. -/
def Invalid.isPrintable : Invalid → Bool
  | notPositive _ value | negativeLimit value => (Text.intText? value).isSome
  | _ => true

/-- The first complaint about settings, in the order in which they are checked. -/
def complaint? (s : Settings) : Option Invalid :=
  if s.scale < 1 then some (.notPositive "scale" s.scale)
  else if s.cyclesPerFrame < 1 then some (.notPositive "cycles_per_frame" s.cyclesPerFrame)
  else if s.fps < 1 then some (.notPositive "fps" s.fps)
  else if s.maxCycles < 0 then some (.negativeLimit s.maxCycles)
  else if s.timerMode ∉ timerModes then some (.unknownTimerMode s.timerMode)
  else if s.colorScheme ∉ Scheme.names then some (.unknownScheme s.colorScheme)
  else if Text.uppercase s.logLevel ∉ Log.levels then some (.unknownLevel s.logLevel)
  else if s.headless ∧ s.maxCycles = 0 then some .endless
  else none

/-- Settings that make sense. -/
structure Valid (s : Settings) : Prop where
  scale_pos : 1 ≤ s.scale
  cyclesPerFrame_pos : 1 ≤ s.cyclesPerFrame
  fps_pos : 1 ≤ s.fps
  maxCycles_nonneg : 0 ≤ s.maxCycles
  timerMode_mem : s.timerMode ∈ timerModes
  colorScheme_mem : s.colorScheme ∈ Scheme.names
  logLevel_mem : Text.uppercase s.logLevel ∈ Log.levels
  limited : s.headless = true → 0 < s.maxCycles

theorem complaint?_eq_none_iff (s : Settings) : s.complaint? = none ↔ s.Valid := by
  unfold complaint?
  constructor
  · intro h
    split at h
    · cases h
    split at h
    · cases h
    split at h
    · cases h
    split at h
    · cases h
    split at h
    · cases h
    split at h
    · cases h
    split at h
    · cases h
    split at h
    · cases h
    rename_i h1 h2 h3 h4 h5 h6 h7 h8
    refine ⟨by omega, by omega, by omega, by omega, Decidable.not_not.1 h5,
      Decidable.not_not.1 h6, Decidable.not_not.1 h7, ?_⟩
    intro hh
    have : s.maxCycles ≠ 0 := fun h0 => h8 ⟨hh, h0⟩
    omega
  · intro h
    have h1 := h.scale_pos
    have h2 := h.cyclesPerFrame_pos
    have h3 := h.fps_pos
    have h4 := h.maxCycles_nonneg
    rw [if_neg (by omega), if_neg (by omega), if_neg (by omega), if_neg (by omega),
      if_neg (Decidable.not_not.2 h.timerMode_mem), if_neg (Decidable.not_not.2 h.colorScheme_mem),
      if_neg (Decidable.not_not.2 h.logLevel_mem), if_neg]
    rintro ⟨hh, h0⟩
    have := h.limited hh
    omega

/-- The mode in which the timers of a run count down. -/
def mode (s : Settings) : TimerMode := TimerMode.ofName s.timerMode s.cyclesPerFrame

/-- The level of the log of a run. -/
def effectiveLevel (s : Settings) : String := if s.trace then "DEBUG" else s.logLevel

end Settings

end Chip8
