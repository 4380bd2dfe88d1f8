/-
  Chip8/Settings/Template.lean
  ============================
  **Templates** — a text in which other values are put in: between a dollar sign
  with a brace and a closing brace stands the key of a value, or the name of a
  function with its arguments after a colon.

  A backslash before such an opening makes it ordinary text; of two backslashes
  there, one is left.
-/
import Chip8.Settings.Template.Token
import Chip8.Yaml.Scalar

namespace Chip8.Settings

open Chip8.Yaml (Scalar)

/-- What a template, or an argument of a function in it, stands for. -/
inductive Template where
  /-- A value that is written out. -/
  | literal (s : Scalar)
  /-- An integer with more digits than are read. -/
  | overlong
  /-- Nothing but blanks where a value is to be. -/
  | hollow
  /-- The texts of several values, one after the other. -/
  | join (parts : List Template)
  /-- The value of a key, which the texts of its pieces make up; each comes with the
      way it is written. -/
  | reference (pieces : List (String × Template))
  /-- The result of a function. -/
  | call (name : List (String × Template)) (arguments : List Template)
  | list (items : List Template)
  | dict (entries : List (Template × Template))

namespace Template

/-- Why a text is no template. -/
inductive Malformed where
  /-- No token starts with these characters. -/
  | unreadable (text : String)
  /-- Something is closed that was not opened. -/
  | unopened
  /-- A reference cannot go on as it does after this text. -/
  | noWayOn (text : String)
  /-- A token where others are needed. -/
  | misplaced (text : String) (expected : List Kind)
  /-- A token too many. -/
  | extraneous (text : String) (expected : List Kind)
  /-- A token is missing before another. -/
  | lacking (expected : Kind) (text : String)
  deriving DecidableEq, Repr

/-- A text in single quotes, on one line. -/
def onOneLine (s : String) : String :=
  let shown := s.toList.flatMap fun c =>
    if c = '\n' then ['\\', 'n']
    else if c = '\r' then ['\\', 'r']
    else if c = '\t' then ['\\', 't']
    else [c]
  String.ofList ('\'' :: shown ++ ['\''])

/-- The text for a malformed template. -/
def Malformed.message : Malformed → String
  | unreadable text => "token recognition error at: " ++ onOneLine text
  | unopened => "Empty Stack"
  | noWayOn text => "no viable alternative at input " ++ onOneLine text
  | misplaced text ks => "mismatched input " ++ onOneLine text ++ " expecting " ++ Kind.wordOf ks
  | extraneous text ks => "extraneous input " ++ onOneLine text ++ " expecting " ++ Kind.wordOf ks
  | lacking k text => "missing " ++ k.word ++ " at " ++ onOneLine text

/-- The template is the value of a key and nothing else. -/
def isReference : Template → Bool
  | reference _ => true
  | _ => false

end Template

end Chip8.Settings
