/-
  Chip8/Yaml/Tag.lean
  ===================
  **Tags** — what kind of value a node has: a tag names it, or else its form does.

  A plain scalar is null, a truth value, a number or a text, depending on its form
  alone.  Integers may be binary, octal, decimal, hexadecimal or base sixty, with
  low lines between their digits; decimal numbers may have a fraction or a power
  of ten, and an exponent alone makes a number one.
-/
import Chip8.Text.Cut
import Chip8.Text.Numeral
import Chip8.Yaml.Lexeme

namespace Chip8.Yaml

open Chip8.Text (cut splitSign)

/-- The kinds of values that a node can be said to have. -/
inductive Tag where
  | null
  | bool
  | int
  | float
  | str
  | binary
  | timestamp
  | sequence
  | mapping
  | set
  /-- A sequence of mappings with one key each, whose order may be said to count. -/
  | pairs (ordered : Bool)
  /-- The mark of mappings that are merged into another. -/
  | merge
  /-- The mark of a default value. -/
  | default
  /-- A kind of a name that no value has. -/
  | unknown (name : String)
  deriving DecidableEq, Repr

namespace Tag

/-- The standard tags by the rest of their names. -/
def named : List (String × Tag) := [
  ("null", null), ("bool", bool), ("int", int), ("float", float), ("str", str),
  ("binary", binary), ("timestamp", timestamp), ("seq", sequence), ("map", mapping),
  ("set", set), ("omap", pairs true), ("pairs", pairs false), ("merge", merge), ("value", default)]

/-- The tag of a name. -/
def ofName (name : String) : Tag :=
  ((named.find? fun entry => standardTags ++ entry.1 == name).map Prod.snd).getD (unknown name)

/-- The name of a tag. -/
def fullName (t : Tag) : String :=
  match t with
  | unknown name => name
  | t => standardTags ++ ((named.find? fun entry => entry.2 == t).map Prod.fst).getD ""

/-- The tag of plain scalars that cannot be: they would start with a mark. -/
def impossible : Tag := unknown (standardTags ++ "yaml")

/-! ### Forms -/

/-- The spellings of true. -/
def trueWords : List String :=
  ["yes", "Yes", "YES", "true", "True", "TRUE", "on", "On", "ON"]

/-- The spellings of false. -/
def falseWords : List String :=
  ["no", "No", "NO", "false", "False", "FALSE", "off", "Off", "OFF"]

/-- The spellings of null. -/
def nullWords : List String := ["", "~", "null", "Null", "NULL"]

/-- A decimal digit or a low line. -/
def isDigitOrLine (c : Char) : Bool := c.isDigit || c == '_'

/-- A nonempty text of such characters. -/
def allOf (p : Char → Bool) (s : List Char) : Bool := !s.isEmpty && s.all p

/-- A group of a base-sixty number after its first: one or two digits below 60. -/
def isSixty : List Char → Bool
  | [a] => a.isDigit
  | [a, b] => '0' ≤ a && a ≤ '5' && b.isDigit
  | _ => false

/-- Digits and low lines that start with a digit. -/
def startsWithDigit (s : List Char) : Bool := s.head?.any Char.isDigit && s.all isDigitOrLine

/-- Digits and low lines that start with a digit other than zero. -/
def startsNonzero (s : List Char) : Bool := startsWithDigit s && s.head? != some '0'

/-- Digits with single low lines between them. -/
def isGrouped (s : List Char) : Bool := (cut '_' s).all (allOf Char.isDigit)

/-- The form of an integer after its sign. -/
def isIntForm (s : List Char) : Bool :=
  match s with
  | ['0'] => true
  | '0' :: 'b' :: r => allOf (fun c => c == '0' || c == '1' || c == '_') r
  | '0' :: 'x' :: r => allOf (fun c => (hexValue? c).isSome || c == '_') r
  | '0' :: r => allOf (fun c => ('0' ≤ c && c ≤ '7') || c == '_') r
  | _ =>
    startsNonzero s ||
      (match cut ':' s with
        | g :: g' :: gs => startsNonzero g && (g' :: gs).all isSixty
        | _ => false)

/-- The form of a power of ten: a mark, a sign, which may be missing unless it is
    required, and digits. -/
def isExponent (signRequired : Bool) (s : List Char) : Bool :=
  match s with
  | c :: r =>
    let sign := r.head?.any fun d => d == '+' || d == '-'
    (c == 'e' || c == 'E') && (sign || !signRequired) &&
      allOf Char.isDigit (if sign then r.tail else r)
  | [] => false

/-- The form of a decimal number after its sign.  After loosely grouped digits, an
    exponent needs a sign and a point before it. -/
def isFloatForm (s : List Char) : Bool :=
  let (whole, r) := s.span isDigitOrLine
  if !startsWithDigit whole then false
  else match r with
    | '.' :: r =>
      let tail := r.dropWhile isDigitOrLine
      tail.isEmpty || isExponent (!isGrouped whole) tail
    | _ => isGrouped whole && isExponent false r

/-- The form of a decimal number without a whole part, which has no sign. -/
def isFractionForm : List Char → Bool
  | '.' :: r =>
    let (ds, tail) := r.span isDigitOrLine
    startsWithDigit ds && (tail.isEmpty || isExponent true tail)
  | _ => false

/-- The form of a base-sixty number with a fraction, after its sign. -/
def isSixtyFloatForm (s : List Char) : Bool :=
  match cut ':' s with
  | g :: g' :: gs =>
    let last := (g' :: gs).getLastD []
    let (whole, fraction) := last.span (· != '.')
    startsWithDigit g && (g' :: gs).dropLast.all isSixty && isSixty whole &&
      (match fraction with
        | '.' :: r => r.all isDigitOrLine
        | _ => false)
  | _ => false

/-- The spellings of infinity, after the sign. -/
def infinityWords : List String := [".inf", ".Inf", ".INF"]

/-- The spellings of the number that is none. -/
def nanWords : List String := [".nan", ".NaN", ".NAN"]

/-- The tag that the form of a text names. -/
def ofForm (text : String) : Tag :=
  let s := text.toList
  let body := (splitSign s).2
  if trueWords.contains text || falseWords.contains text then bool
  else if nullWords.contains text then null
  else if text = "=" then default
  else if text = "<<" then merge
  else if ["!", "&", "*"].contains text then impossible
  else if isIntForm body then int
  else if infinityWords.contains (String.ofList body) || nanWords.contains text then float
  else if isFloatForm body || isFractionForm s || isSixtyFloatForm body then float
  else str

/-- A text without the line feed at its end. -/
def withoutBreak (text : String) : String :=
  match text.toList.reverse with
  | '\n' :: r => String.ofList r.reverse
  | _ => text

/-- The tag of a plain scalar: its form does not depend on a line feed at its end,
    but a line feed alone is a text. -/
def ofPlain (text : String) : Tag := if text = "\n" then str else ofForm (withoutBreak text)

end Tag

end Chip8.Yaml
