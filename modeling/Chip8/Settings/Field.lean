/-
  Chip8/Settings/Field.lean
  =========================
  **The fields of settings** — each has a name, a kind and a place in the
  settings, from which it is read and to which it is written.

  What is written to a field is read from it again, and the other fields stay as
  they were; `Kind.ofValue?` says which values a field takes, and `Kind.toScalar`
  gives the value of a field as a scalar.  A scalar made from a value is taken as that
  value.
-/
import Chip8.Settings
import Chip8.Settings.Shown

namespace Chip8.Settings

open Chip8.Yaml (Scalar)

/-- What a field holds. -/
inductive Kind where
  | integer
  | text
  | flag
  deriving DecidableEq, Repr

namespace Kind

/-- The values of a kind. -/
abbrev Carrier : Kind → Type
  | integer => Int
  | text => String
  | flag => Bool

/-- The name of a kind in messages. -/
def word : Kind → String
  | integer => "int"
  | text => "str"
  | flag => "bool"

/-- The words for true, in small letters. -/
def trueWords : List String := ["yes", "y", "on", "true"]

/-- The words for false, in small letters. -/
def falseWords : List String := ["no", "n", "off", "false"]

/-- A text as a truth value: a number, or a word in letters of any size. -/
def readFlag? (s : String) : Option Bool :=
  match Text.readInt? s.toList with
  | some i => some (i != 0)
  | none =>
    if trueWords.contains s.toLower then some true
    else if falseWords.contains s.toLower then some false
    else none

/-- A scalar as a value of a kind.  Numbers with a fraction and truth values are
    no integers, and null is nothing at all. -/
def ofScalar? : (k : Kind) → Scalar → Option k.Carrier
  | integer, .int i => some i
  | integer, .str s => Text.readInt? s.toList
  | integer, _ => none
  | flag, .bool b => some b
  | flag, .int i => some (i != 0)
  | flag, .str s => readFlag? s
  | flag, _ => none
  | text, .str s => some s
  | text, .bool b => (Scalar.bool b).text?
  | text, .int i => (Scalar.int i).text?
  | text, .float x => (Scalar.float x).text?
  | text, _ => none

/-- A value as a value of a kind: collections are of no kind. -/
def ofValue? (k : Kind) : Yaml.Value → Option k.Carrier
  | .scalar s => k.ofScalar? s
  | _ => none

/-- A value that would be of a kind if its text were not too long. -/
def overlong : Kind → Yaml.Value → Bool
  | text, .scalar (.int i) => (Scalar.int i).text?.isNone
  | _, _ => false

/-- A value as a scalar. -/
def toScalar : (k : Kind) → k.Carrier → Scalar
  | integer, i => .int i
  | text, s => .str s
  | flag, b => .bool b

/-- A value as it is taken out of a field: the escape of a mark is dropped only here, so
    that a field with an escaped mark counts as given. -/
def unescaped : (k : Kind) → k.Carrier → k.Carrier
  | integer, i => i
  | text, s => withoutEscape s
  | flag, b => b

/-- A value, given as a scalar, is taken as it is. -/
theorem ofScalar?_toScalar (k : Kind) (v : k.Carrier) : k.ofScalar? (k.toScalar v) = some v := by
  cases k <;> rfl

end Kind

/-- The fields. -/
inductive Field where
  | scale
  | cyclesPerFrame
  | fps
  | timerMode
  | colorScheme
  | seed
  | logLevel
  | trace
  | headless
  | maxCycles
  deriving DecidableEq, Repr

namespace Field

/-- The fields in their order. -/
def all : List Field :=
  [scale, cyclesPerFrame, fps, timerMode, colorScheme, seed, logLevel, trace, headless, maxCycles]

/-- The name of a field. -/
def name : Field → String
  | scale => "scale"
  | cyclesPerFrame => "cycles_per_frame"
  | fps => "fps"
  | timerMode => "timer_mode"
  | colorScheme => "color_scheme"
  | seed => "seed"
  | logLevel => "log_level"
  | trace => "trace"
  | headless => "headless"
  | maxCycles => "max_cycles"

/-- What a field holds. -/
abbrev kind : Field → Kind
  | scale | cyclesPerFrame | fps | seed | maxCycles => .integer
  | timerMode | colorScheme | logLevel => .text
  | trace | headless => .flag

/-- The field of a name. -/
def ofName? (name : String) : Option Field := all.find? fun f => f.name == name

/-- Read a field. -/
def get (s : Settings) : (f : Field) → f.kind.Carrier
  | scale => s.scale
  | cyclesPerFrame => s.cyclesPerFrame
  | fps => s.fps
  | timerMode => s.timerMode
  | colorScheme => s.colorScheme
  | seed => s.seed
  | logLevel => s.logLevel
  | trace => s.trace
  | headless => s.headless
  | maxCycles => s.maxCycles

/-- Write a field. -/
def set (s : Settings) : (f : Field) → f.kind.Carrier → Settings
  | scale, v => { s with scale := v }
  | cyclesPerFrame, v => { s with cyclesPerFrame := v }
  | fps, v => { s with fps := v }
  | timerMode, v => { s with timerMode := v }
  | colorScheme, v => { s with colorScheme := v }
  | seed, v => { s with seed := v }
  | logLevel, v => { s with logLevel := v }
  | trace, v => { s with trace := v }
  | headless, v => { s with headless := v }
  | maxCycles, v => { s with maxCycles := v }

theorem mem_all (f : Field) : f ∈ all := by cases f <;> decide

theorem ofName?_name (f : Field) : ofName? f.name = some f := by cases f <;> decide

theorem name_injective {f g : Field} (h : f.name = g.name) : f = g := by
  have hnames := congrArg ofName? h
  rw [ofName?_name, ofName?_name] at hnames
  exact Option.some.inj hnames

theorem get_set (s : Settings) (f : Field) (v : f.kind.Carrier) : get (set s f v) f = v := by
  cases f <;> rfl

theorem get_set_of_ne (s : Settings) {f g : Field} (v : f.kind.Carrier) (h : g ≠ f) :
    get (set s f v) g = get s g := by
  cases f <;> cases g <;> first | rfl | exact absurd rfl h

/-- Settings are given by their fields. -/
theorem ext_get {s t : Settings} (h : ∀ f, get s f = get t f) : s = t := by
  have h1 := h scale
  have h2 := h cyclesPerFrame
  have h3 := h fps
  have h4 := h timerMode
  have h5 := h colorScheme
  have h6 := h seed
  have h7 := h logLevel
  have h8 := h trace
  have h9 := h headless
  have h10 := h maxCycles
  cases s
  cases t
  simp_all [get]

end Field

/-- The name of each field with its value as text; an integer has none if it would be
    too long. -/
def entries (s : Settings) : List (String × Option String) :=
  Field.all.map fun f => (f.name, (f.kind.toScalar (Field.get s f)).text?)

end Chip8.Settings
