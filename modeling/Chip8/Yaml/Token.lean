/-
  Chip8/Yaml/Token.lean
  =====================
  **Tokens of a YAML 1.1 text** — the vocabulary between the characters of a
  text and its structure, and the classes of characters that separate tokens.
-/
import Chip8.Yaml.Error

namespace Chip8.Yaml

/-- How a scalar was written; only plain ones are resolved by their text. -/
inductive Style where
  | plain
  | quoted
  deriving DecidableEq, Repr

/-- The pieces of a text. -/
inductive Token where
  /-- The version that a text announces. -/
  | version (major minor : Nat)
  /-- A handle for tags, and what it stands for. -/
  | handle (name expansion : String)
  | documentStart
  | documentEnd
  | blockSequenceStart
  | blockMappingStart
  | blockEnd
  | flowSequenceStart
  | flowSequenceEnd
  | flowMappingStart
  | flowMappingEnd
  | key
  | value
  | blockEntry
  | flowEntry
  | alias (name : String)
  | anchor (name : String)
  /-- A tag: its handle, which is empty for a tag in full, and the rest. -/
  | tag (handle name : String)
  | scalar (style : Style) (text : String)
  | streamEnd
  deriving DecidableEq, Repr

/-! ### Classes of characters -/

/-- A space or a tab. -/
def isBlank (c : Char) : Bool := c == ' ' || c == '\t'

/-- A text starts with a blank, with a line break or not at all. -/
def startsBlank : List Char → Bool
  | [] => true
  | c :: _ => isBlank c || isBreak c

/-- A character of anchors, tag handles and directive names. -/
def isWordChar (c : Char) : Bool := c.isAlphanum || c == '_' || c == '-'

/-- A character that a text may hold at all. -/
def isReadable (c : Char) : Bool :=
  let n := c.toNat
  n == 0x09 || n == 0x0A || n == 0x0D || (0x20 ≤ n && n ≤ 0x7E) || n == 0x85 ||
    (0xA0 ≤ n && n ≤ 0xFFFD) || 0x10000 ≤ n

/-- What a line break inside a scalar stands for. -/
def breakValue (c : Char) : Char := if c == '\u2028' || c == '\u2029' then c else '\n'

/-- The line breaks of a run of blanks and breaks; the ordinary ones count as
    a line feed, and a return before a line feed does not count. -/
def lineBreaks : List Char → List Char
  | '\r' :: '\n' :: r => '\n' :: lineBreaks r
  | c :: r => if isBreak c then breakValue c :: lineBreaks r else lineBreaks r
  | [] => []

/-- What a run of blanks and breaks inside a scalar stands for: a single line
    feed is a space, more of them lose the first, and blanks count only where
    there is no break. -/
def fold (run : List Char) : List Char :=
  match lineBreaks run with
  | [] => run
  | ['\n'] => [' ']
  | '\n' :: r => r
  | r => r

/-- The characters after the last line break of a run. -/
def lastLine (run : List Char) : List Char := (run.reverse.takeWhile fun c => !isBreak c).reverse

/-- A text starts with a document marker. -/
def startsMarker : List Char → Bool
  | '-' :: '-' :: '-' :: r => startsBlank r
  | '.' :: '.' :: '.' :: r => startsBlank r
  | _ => false

end Chip8.Yaml
