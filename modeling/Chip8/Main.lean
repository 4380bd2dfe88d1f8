/-
  Chip8/Main.lean
  ===============
  **The program** — the command line on the real terminal, clock and files.

  In a run in a window, every line of standard input is one poll, its events
  separated by blanks, and the pictures are drawn on standard error with a
  coloured blank for each pixel.
-/
import Chip8.CommandLine

namespace Chip8.Main

/-- The terminal on standard output. -/
def terminal (interactive : Bool) : Terminal IO where
  now := return .real ((← IO.monoNanosNow).toFloat / 1000000000.0)
  putLine := fun line => do
    IO.println line
    (← IO.getStdout).flush
  overflow := throw (IO.userError "number too large")
  interactive := interactive

/-- The variables of the environment, where the system shows them as a file: the entries
    end with null characters, and a name ends at the first equals sign. -/
def environment : IO (List (String × String)) := do
  try
    let text ← IO.FS.readFile "/proc/self/environ"
    return ((Text.cut '\x00' text.toList).filter (!·.isEmpty)).map fun entry =>
      let (name, value) := entry.span (· != '=')
      (String.ofList name, String.ofList (value.drop 1))
  catch _ => return []

/-- Why the system gives no file. -/
def readError : IO.Error → ReadError
  | .noFileOrDirectory _ code reason | .inappropriateType _ code reason
  | .permissionDenied _ code reason => .system code.toNat reason true
  | e => .refused ⟨toString e⟩

/-- Read a file. -/
def readFile (path : String) : IO (Except ReadError Bytes) := do
  try return .ok (← IO.FS.readBinFile path).toList
  catch e => return .error (readError e)

/-- The number of bytes in a file. -/
def fileSize (path : String) : IO (Except ReadError Nat) := do
  try return .ok (← IO.FS.readBinFile path).size
  catch e => return .error (readError e)

/-- The events of a line. -/
def pollOfLine (line : String) : Window.Poll :=
  ((Text.cut ' ' line.toList).filter fun part => !part.isEmpty).map fun part =>
    Window.Event.ofText (String.ofList part)

/-- The polls that stand on the lines of an input. -/
def polls (input : String) : List Window.Poll :=
  let lines := Text.cut '\n' input.toList
  let lines := if lines.getLast? = some [] then lines.dropLast else lines
  lines.map fun line => pollOfLine (String.ofList line)

/-- A pixel as a coloured blank. -/
def drawnPixel (p : Rgb) : String := s!"\x1b[48;2;{p.red};{p.green};{p.blue}m "

/-- A picture, a line per row. -/
def drawn (p : Picture) : String :=
  String.join (p.map fun row => String.join (row.map drawnPixel) ++ Log.resetCode ++ "\n")

/-- What an error without an exit status says. -/
def escapeText : CommandLine.Escape → String
  | .machine e => e.message?.getD "run refused"
  | .settings _ => "unreadable override"
  | .overlong => Settings.overlongText
  | .file e => (e.message? "").getD "unreadable file"

/-- Run the command line and give its exit status. -/
def run (args : List String) : IO UInt32 := do
  let around : CommandLine.Surroundings IO := {
    terminal := terminal (← (← IO.getStdout).isTty)
    loader := Settings.Loader.limited (← environment) none 120 1000 300
    host := Host.boundless
    read := readFile
    size := fileSize
    script := return polls (← (← IO.getStdin).readToEnd) }
  let ending ← CommandLine.run around args
  for frame in ending.frames do
    IO.eprint (drawn frame.picture)
  match ending.exit with
  | .ok exit => return UInt32.ofNat exit.code
  | .error e =>
    IO.eprintln (escapeText e)
    return UInt32.ofNat CommandLine.Exit.halted.code

end Chip8.Main

def main (args : List String) : IO UInt32 := Chip8.Main.run args
