/-
  Chip8/Files.lean
  ================
  **Files** — their bytes, and why there are none.

  Where a path leads is up to the system that a program runs on; what is told here is
  how its refusals read.
-/
import Chip8.Host
import Chip8.Text.Quoted

namespace Chip8

/-- The contents of a file. -/
abbrev Bytes := List UInt8

/-- Why a file cannot be read. -/
inductive ReadError where
  /-- The system says so: the number of the error, its reason, and whether the path is
      named. -/
  | system (code : Int) (reason : String) (named : Bool)
  /-- The system cannot be asked, or its answer cannot be kept. -/
  | refused (r : Refusal)
  deriving DecidableEq, Repr

/-- The text of an error of the system about a path. -/
def ReadError.message? (path : String) : ReadError → Option String
  | system code reason named =>
    some (s!"[Errno {code}] {reason}" ++ if named then ": " ++ Text.Quoted.encode path else "")
  | refused _ => none

end Chip8
