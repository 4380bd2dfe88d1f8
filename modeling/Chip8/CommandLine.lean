/-
  Chip8/CommandLine.lean
  ======================
  **The command line** — one program file and any number of overrides: load the
  settings, load the program, run it with or without a window, and say in an exit
  status how it went.

  What lies outside, a terminal, the process, the host, files and events, comes in
  as `Surroundings`, so that the same command line runs in the real world and on a
  transcript.
-/
import Chip8.Files
import Chip8.Program
import Chip8.Settings.Load
import Chip8.Window

namespace Chip8

namespace CommandLine

/-- What the command line finds around it. -/
structure Surroundings (m : Type → Type) where
  terminal : Terminal m
  /-- The process that loads the settings. -/
  loader : Settings.Loader
  /-- What a run in a window is shown on. -/
  host : Host
  /-- Read a file. -/
  read : String → m (Except ReadError Bytes)
  /-- The number of bytes in a file. -/
  size : String → m (Except ReadError Nat)
  /-- The events of a run in a window. -/
  script : m (List Window.Poll)

/-- How a program says that it ended. -/
inductive Exit where
  | finished
  /-- A program could not be loaded or was halted. -/
  | halted
  /-- The arguments make no sense. -/
  | misused
  deriving DecidableEq, Repr

/-- The exit status. -/
def Exit.code : Exit → Nat
  | finished => 0
  | halted => 1
  | misused => 2

/-- An error for which there is no exit status. -/
inductive Escape where
  | settings (e : Settings.LoadError)
  | machine (e : Error)
  /-- A setting whose text would be too long. -/
  | overlong
  /-- A file that cannot be had, for a reason that is not reported. -/
  | file (e : ReadError)

/-- What came of running a machine. -/
structure Outcome where
  log : List Trace
  frames : List Window.Frame
  /-- The number of cycles to report. -/
  result : Except Error Nat

namespace Outcome

/-- Run without a window. -/
def headless (c : Settings) (m : Machine) : Outcome :=
  let run := Run.cycles c.mode c.trace c.maxCycles m
  ⟨run.log, [], run.result.map Prod.snd⟩

/-- Run in a window. -/
def windowed (host : Host) (c : Settings) (script : List Window.Poll) (m : Machine) : Outcome :=
  let session := Window.run host c script m
  ⟨session.log.reverse, session.frames.reverse, session.result.map Prod.snd⟩

end Outcome

/-- How the command line ended, and what it showed. -/
structure Ending where
  exit : Except Escape Exit
  frames : List Window.Frame := []

/-- An argument is an override: it has an equals sign in it. -/
def isOverride (arg : String) : Bool := arg.toList.contains '='

/-- How the command line is used. -/
def usage : String := "Usage: chip8vm ROM [key=value ...]"

variable {m : Type → Type} [Monad m] (around : Surroundings m)

/-- Run a loaded machine, and say how it went. -/
def play (console : Console) (c : Settings) (machine : Machine) : m Ending := do
  let t := around.terminal
  let outcome ←
    if c.headless then pure (Outcome.headless c machine)
    else around.script >>= fun script => pure (Outcome.windowed around.host c script machine)
  outcome.log.forM (console.trace t)
  match outcome.result with
  | .ok cycles =>
    console.stopped t cycles
    return ⟨.ok .finished, outcome.frames⟩
  | .error e =>
    if e.isFault then
      console.halted t e.message
      return ⟨.ok .halted, outcome.frames⟩
    else return ⟨.error (.machine e), outcome.frames⟩

/-- The entries before the first one without a text. -/
def printable (entries : List (String × Option String)) : List (String × String) :=
  (entries.takeWhile fun entry => entry.2.isSome).map fun (key, text) => (key, text.getD "")

/-- Load a program into a machine and run it. -/
def boot (console : Console) (c : Settings) (path : String) (machine : Machine) : m Ending := do
  let t := around.terminal
  match ← around.read path with
  | .error e =>
    match e.message? path with
    | some text =>
      console.error t s!"Cannot read ROM {path}: {text}"
      return { exit := .ok .halted }
    | none => return { exit := .error (.file e) }
  | .ok image =>
    match machine.loadProgram image with
    | .error e =>
      console.error t s!"Cannot load ROM {path}: {e.message}"
      return { exit := .ok .halted }
    | .ok machine =>
      match ← around.size path with
      | .error e => return { exit := .error (.file e) }
      | .ok size =>
        console.loaded t path size
        play around console c machine

/-- Show the settings of a run, and run. -/
def start (c : Settings) (path : String) : m Ending := do
  let t := around.terminal
  let console ← Console.openOn t Console.defaultName c.effectiveLevel true true
  console.configuration t (printable c.entries)
  if c.entries.any fun entry => entry.2.isNone then return { exit := .error .overlong }
  match Machine.ofSeed c.seed with
  | .error e => return { exit := .error (.machine e) }
  | .ok machine => boot around console c path machine

/-- The command line. -/
def run (args : List String) : m Ending := do
  let t := around.terminal
  let console ← Console.openOn t Console.defaultName Console.defaultLevel true true
  match args.filter fun arg => !isOverride arg with
  | [path] =>
    match Settings.load around.loader (args.filter isOverride) with
    | .ok c => start around c path
    | .error e =>
      match e.report? with
      | some report =>
        console.error t s!"Invalid configuration: {report}"
        return { exit := .ok .misused }
      | none => return { exit := .error (.settings e) }
  | _ =>
    console.error t usage
    return { exit := .ok .misused }

end CommandLine

end Chip8
