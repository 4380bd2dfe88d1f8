/-
  Chip8/Log.lean
  ==============
  **The log** — messages with a level, printed one per line if their level is at
  least that of the console, with the time since the console was opened, the
  level in its colour, and a name.

  A console prints through a `Terminal`, which also tells the time, so that the
  same messages can go to a real terminal or to a transcript with a given clock.
-/
import Chip8.Clock
import Chip8.Text.Uppercase
import Chip8.Trace

namespace Chip8

/-- Where a log goes and where its times come from. -/
structure Terminal (m : Type → Type) where
  /-- The time. -/
  now : m Seconds
  /-- Print one line. -/
  putLine : String → m Unit
  /-- A number is too large to be printed: nothing is printed from here on. -/
  overflow : m Unit
  /-- The lines are shown on a screen that understands colours. -/
  interactive : Bool

/-- A transcript: the readings that the clock will still give, the last of which
    it repeats, and the lines printed so far, newest first. -/
structure Transcript where
  clock : List Seconds
  lines : List String := []
  /-- A number was too large to be printed. -/
  overflowed : Bool := false

namespace Transcript

/-- Read the clock. -/
def now : StateM Transcript Seconds := do
  let t ← get
  match t.clock with
  | [] => return .real 0.0
  | [x] => return x
  | x :: xs =>
    set { t with clock := xs }
    return x

/-- Print a line. -/
def putLine (line : String) : StateM Transcript Unit :=
  modify fun t => if t.overflowed then t else { t with lines := line :: t.lines }

/-- End a transcript. -/
def overflow : StateM Transcript Unit := modify fun t => { t with overflowed := true }

/-- The terminal that writes a transcript. -/
def terminal (interactive : Bool) : Terminal (StateM Transcript) :=
  ⟨now, putLine, overflow, interactive⟩

/-- The text of a transcript. -/
def text (t : Transcript) : String :=
  String.join (t.lines.reverse.map fun l => l ++ "\n")

end Transcript

namespace Log

/-- The levels, from the least important. -/
def levels : List String := ["DEBUG", "INFO", "WARNING", "ERROR", "CRITICAL"]

/-- The rank of a level written in capitals; an unknown one ranks as information. -/
def rank (level : String) : Nat := (levels.findIdx? (· == level)).getD 1

/-- The code that ends a colour. -/
def resetCode : String := "\x1b[0m"

/-- The colour codes of the levels, and of a level without a colour. -/
def colourCodes : List (String × String) :=
  [("DEBUG", "\x1b[36m"), ("INFO", "\x1b[32m"), ("WARNING", "\x1b[33m"), ("ERROR", "\x1b[31m"),
    ("CRITICAL", "\x1b[35m"), ("RESET", resetCode)]

/-- The colour code of a level; unknown levels have none. -/
def colourCode (level : String) : String := (colourCodes.lookup (Text.uppercase level)).getD ""

/-- The time as a message shows it: seconds with two decimals. -/
def stamp (seconds : Float) : String :=
  "[" ++ Text.Decimal.padLeft 8 (Text.Decimal.fixed 2 seconds) ++ "s]"

end Log

/-- A log that messages are sent to. -/
structure Console where
  name : String
  /-- The level below which nothing is printed, in capitals. -/
  level : String
  colours : Bool
  timestamps : Bool
  /-- When the console was opened. -/
  start : Seconds

namespace Console

/-- The name that consoles have by default. -/
def defaultName : String := "chip8vm"

/-- The level that consoles have by default. -/
def defaultLevel : String := "INFO"

/-- A message of a level is printed. -/
def shows (c : Console) (level : String) : Bool :=
  Log.rank c.level ≤ Log.rank (Text.uppercase level)

/-- What stands before a message on its line; `elapsed` is the time to show, if any. -/
def head (c : Console) (elapsed : Option Float) (level : String) : String :=
  let tag := "[" ++ Text.Decimal.padLeft 8 level ++ "]"
  let tag := if c.colours then Log.colourCode level ++ tag ++ Log.resetCode else tag
  (elapsed.map Log.stamp).getD "" ++ tag ++ "[" ++ c.name ++ "] "

/-- The line of a message. -/
def line (c : Console) (elapsed : Option Float) (level message : String) : String :=
  c.head elapsed level ++ message

/-- A line shows its message, whatever stands before it. -/
theorem line_eq_iff {c : Console} {elapsed : Option Float} {level message text : String} :
    c.line elapsed level message = c.head elapsed level ++ text ↔ message = text :=
  String.append_right_inj _

variable {m : Type → Type} [Monad m] (t : Terminal m)

/-- Open a console; colours are used only if they are wanted and understood. -/
def openOn (name level : String) (colours timestamps : Bool) : m Console := do
  let start ← t.now
  return ⟨name, Text.uppercase level, colours && t.interactive, timestamps, start⟩

/-- Send a message.  The clock is read only for a message that shows the time. -/
def log (c : Console) (level message : String) : m Unit := do
  if c.shows level then
    if c.timestamps then
      let now ← t.now
      match (now.since? c.start).bind Seconds.toFloat? with
      | some elapsed => t.putLine (c.line (some elapsed) level message)
      | none => t.overflow
    else t.putLine (c.line none level message)

/-- Send a message for debugging. -/
def debug (c : Console) (message : String) : m Unit := c.log t "DEBUG" message

/-- Send information. -/
def info (c : Console) (message : String) : m Unit := c.log t "INFO" message

/-- Send an error. -/
def error (c : Console) (message : String) : m Unit := c.log t "ERROR" message

/-! ### Messages of a run -/

/-- The settings of a run, one per line. -/
def configuration (c : Console) (entries : List (String × String)) : m Unit := do
  c.debug t "Configuration:"
  entries.forM fun (key, value) => c.debug t s!"  {key}: {value}"

/-- A program was loaded. -/
def loaded (c : Console) (file : String) (size : Int) : m Unit :=
  c.info t s!"Loaded {file} ({size} bytes)"

/-- An instruction is about to run. -/
def trace (c : Console) (entry : Trace) : m Unit := c.debug t entry.text

/-- A run was halted. -/
def halted (c : Console) (reason : String) : m Unit := c.error t s!"Emulation halted: {reason}"

/-- A run ended; the speed is shown without decimals. -/
def stopped (c : Console) (cycles : Int) : m Unit := do
  let now ← t.now
  match (now.since? c.start).bind (Seconds.rate? cycles) with
  | some rate =>
    let speed := Text.Decimal.fixed 0 rate
    c.info t s!"Stopped after {cycles} instructions ({speed} Hz)"
  | none => t.overflow

end Console

end Chip8
