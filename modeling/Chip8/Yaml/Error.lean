/-
  Chip8/Yaml/Error.lean
  =====================
  **Why a text is no value** — what was being read when something went wrong, what
  is wrong, and where.

  A place is known by what follows it; lines and columns are counted only when an error
  is shown.
-/
import Chip8.Text.Quoted

namespace Chip8.Yaml

/-- A place in a text. -/
inductive Place where
  /-- So many characters are left from here on. -/
  | before (left : Nat)
  /-- The start of a line after the last one. -/
  | ending
  deriving DecidableEq, Repr

/-- What was being done. -/
inductive Activity where
  | scanning (what : String)
  | parsing (what : String)
  | constructing (what : String)
  /-- Something that has a name of its own. -/
  | other (text : String)
  deriving DecidableEq, Repr

/-- The text for what was being done. -/
def Activity.text : Activity → String
  | scanning what => "while scanning " ++ what
  | parsing what => "while parsing " ++ what
  | constructing what => "while constructing " ++ what
  | other text => text

/-- What is wrong, and where; and what was being done, and where that began. -/
structure Complaint where
  activity : Option Activity := none
  start : Option Place := none
  problem : String
  place : Place
  deriving DecidableEq, Repr

/-- Why a text is no value. -/
inductive Error where
  /-- A character that no text may hold, and the number of octets before it. -/
  | badCharacter (c : Char) (octets : Nat)
  /-- No token can be read at some place. -/
  | badToken (c : Complaint)
  /-- The tokens do not form a document. -/
  | badStructure (c : Complaint)
  /-- An alias without its anchor, an anchor given twice, or a second document. -/
  | badReference (c : Complaint)
  /-- A node of a kind that has no value, or whose content does not fit its kind. -/
  | noValue (c : Complaint)
  /-- Text that is no number or no date where one was announced. -/
  | badNumber (problem : String)
  /-- A number without a single character. -/
  | emptyNumber
  /-- A word that is no truth value where one was announced. -/
  | badFlag (word : String)
  /-- Text that does not have the form of a date. -/
  | badDate
  /-- A node of another shape than was announced. -/
  | wrongShape (problem : String)
  /-- A number of base sixty with a power beyond all numbers. -/
  | tooLarge
  /-- The escapes of a tag spell no character: the first of their octets, and the number of
      octets before it. -/
  | badEscape (octet before : Nat)
  deriving DecidableEq, Repr

/-! ### Lines and columns -/

/-- A line break of any kind. -/
def isBreak (c : Char) : Bool :=
  c == '\n' || c == '\r' || c == '\u0085' || c == '\u2028' || c == '\u2029'

/-- Line and column, counted from zero. -/
structure Mark where
  line : Nat
  column : Nat
  deriving DecidableEq, Repr

namespace Mark

/-- Move over a character before others: a return before a line feed ends no line. -/
def advance (m : Mark) (c : Char) (r : List Char) : Mark :=
  if isBreak c && !(c == '\r' && r.head? == some '\n') then ⟨m.line + 1, 0⟩
  else ⟨m.line, m.column + 1⟩

/-- The mark after so many characters. -/
def along (m : Mark) : (count : Nat) → List Char → Mark
  | 0, _ => m
  | _ + 1, [] => m
  | count + 1, c :: r => (m.advance c r).along count r

/-- The mark of a place in a text. -/
def ofPlace (text : List Char) : Place → Mark
  | .before left => (⟨0, 0⟩ : Mark).along (text.length - left) text
  | .ending =>
    let m := (⟨0, 0⟩ : Mark).along text.length text
    if m.column = 0 then m else ⟨m.line + 1, 0⟩

/-- The text for a mark: lines and columns are shown from one on. -/
def text (m : Mark) : String :=
  s!"  in \"<unicode string>\", line {m.line + 1}, column {m.column + 1}"

example : ofPlace "ab\ncd".toList (.before 1) = ⟨1, 1⟩ := by decide +kernel
example : ofPlace "ab\ncd".toList .ending = ⟨2, 0⟩ := by decide +kernel

end Mark

/-! ### Texts -/

/-- The lines of a complaint: where something began is left out if that is where it goes
    wrong. -/
def Complaint.message (text : List Char) (c : Complaint) : String :=
  let place := Mark.ofPlace text c.place
  let began := (c.start.map (Mark.ofPlace text)).filter fun m => m != place
  "\n".intercalate ((c.activity.map Activity.text).toList ++ (began.map Mark.text).toList ++
    [c.problem, place.text])

/-- Note what was being done, and where that began, unless it is noted. -/
def Complaint.during (start : Place) (c : Complaint) : Complaint :=
  if c.activity.isSome && c.start.isNone then { c with start := some start } else c

namespace Error

/-- The name of an error. -/
def word : Error → String
  | badCharacter .. => "ReaderError"
  | badToken _ => "ScannerError"
  | badStructure _ => "ParserError"
  | badReference _ => "ComposerError"
  | noValue _ => "ConstructorError"
  | badNumber _ => "ValueError"
  | emptyNumber => "IndexError"
  | badFlag _ => "KeyError"
  | badDate => "AttributeError"
  | wrongShape _ => "TypeError"
  | tooLarge => "OverflowError"
  | badEscape .. => "UnicodeDecodeError"

/-- The text of an error in a text. -/
def message (text : List Char) : Error → String
  | badCharacter c octets =>
    let code := String.ofList (Text.Quoted.hex 4 c.toNat)
    s!"unacceptable character #x{code}: control characters are not allowed\n" ++
      s!"  in \"<unicode string>\", position {octets}"
  | badToken c | badStructure c | badReference c | noValue c => c.message text
  | badNumber problem | wrongShape problem => problem
  | emptyNumber => "string index out of range"
  | badFlag word => Text.Quoted.encode word
  | badDate => "'NoneType' object has no attribute 'groupdict'"
  | tooLarge => "int too large to convert to float"
  | badEscape octet before =>
    let code := String.ofList (Text.Quoted.hex 2 octet)
    let wrong := if octet < 0xC2 || 0xF5 ≤ octet then "start" else "continuation"
    s!"'utf-8' codec can't decode byte 0x{code} in position {before}: invalid {wrong} byte"

/-- An error while a token is read that starts at a place. -/
def during (start : Place) : Error → Error
  | badToken c => badToken (c.during start)
  | e => e

/-- An error in a text that comes after so many octets more. -/
def after (count : Nat) : Error → Error
  | badEscape octet before => badEscape octet (before + count)
  | e => e

end Error

end Chip8.Yaml
