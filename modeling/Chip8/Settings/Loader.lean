/-
  Chip8/Settings/Loader.lean
  ===========================
  **The process that loads settings** — its environment, and how many of its calls
  stand inside of each other.

  Values are checked and templates are read and filled by functions that call
  themselves.  How deep they get depends on the process and on where it stands, so it is a
  parameter; what goes too deep fails with a fault of its own (`Fault.tooDeep`).
-/
namespace Chip8.Settings

/-- What a process has room for. -/
structure Loader where
  /-- The variables of its environment. -/
  environment? : String → Option String
  /-- The most nodes that the aliases of a text may stand for, if that is limited. -/
  copies : Option Nat
  /-- The most collections inside of each other in a value that is held. -/
  collections : Nat
  /-- The most calls inside of each other while a template is filled. -/
  calls : Nat
  /-- A text can be read as a template where there is room for so many calls. -/
  reads : (room : Nat) → String → Bool

namespace Loader

/-- The room for calls where no template is being filled. -/
def room (p : Loader) : Nat := p.calls + 1

/-- A text can be read as a template, both where it is collected and where it is filled. -/
def Reads (p : Loader) (t : String) : Prop := p.reads p.room t = true ∧ p.reads p.calls t = true

instance (p : Loader) (t : String) : Decidable (p.Reads t) := inferInstanceAs (Decidable (_ ∧ _))

/-- The most braces and brackets of a text that are open at once. -/
def nesting (s : List Char) : Nat :=
  let count := fun (now, most) c =>
    if c = '\x7b' ∨ c = '[' then (now + 1, max most (now + 1))
    else if c = '\x7d' ∨ c = ']' then (now - 1, most)
    else (now, most)
  (s.foldl count (0, 0)).2

/-- A process with some variables, and with limits of which that for the nesting of templates
    is the same wherever they are read. -/
def limited (named : List (String × String)) (copies : Option Nat)
    (collections calls openings : Nat) : Loader where
  environment? name := named.lookup name
  copies := copies
  collections := collections
  calls := calls
  reads _ t := nesting t.toList ≤ openings

end Loader

/-- A process without variables that copies nodes as often as asked, holds collections up to 120
    levels deep and reads templates with up to 300 openings. -/
def usualLoader : Loader := .limited [] none 120 1000 300

end Chip8.Settings
