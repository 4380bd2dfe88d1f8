/-
  Chip8/Settings/Template/Token.lean
  ==================================
  **Tokens of a template** — which tokens a place can hold depends on what was
  opened last: nothing, a reference, the arguments of a function or a quotation.

  At every place the longest token counts, and of equally long ones the first.
  A text that cannot be split on ends in the characters that no token starts with.
-/
import Chip8.Settings.Key

namespace Chip8.Settings.Template

/-- The kinds of tokens, in the order in which they are named in messages. -/
inductive Kind where
  /-- The end of a template, which is no token. -/
  | ending
  | plain
  /-- A backslash that makes an opening ordinary text, after pairs of backslashes. -/
  | escapedOpening
  /-- Pairs of backslashes. -/
  | slashes
  /-- A dollar sign and a brace. -/
  | opening
  /-- A brace among the arguments of a function, which may also close them. -/
  | braceOpen
  | braceClose
  | singleQuote
  | doubleQuote
  | comma
  | bracketOpen
  | bracketClose
  | colon
  | float
  | int
  | bool
  | null
  /-- A character that needs no quotation marks. -/
  | mark
  | name
  /-- Characters after backslashes. -/
  | escape
  | blank
  /-- The brace that closes a reference. -/
  | closing
  | dot
  /-- A part of a key that is no name. -/
  | keyPart
  | quoteClose
  /-- Pairs of backslashes in a quotation. -/
  | quotedSlashes
  deriving DecidableEq, Repr

namespace Kind

/-- All kinds in their order. -/
def all : List Kind := [
  ending, plain, escapedOpening, slashes, opening, braceOpen, braceClose, singleQuote, doubleQuote,
  comma, bracketOpen, bracketClose, colon, float, int, bool, null, mark, name, escape, blank,
  closing, dot, keyPart, quoteClose, quotedSlashes]

/-- The name of a kind in messages. -/
def word : Kind → String
  | ending => "<EOF>"
  | plain => "ANY_STR"
  | escapedOpening => "ESC_INTER"
  | slashes => "TOP_ESC"
  | opening => "INTER_OPEN"
  | braceOpen => "BRACE_OPEN"
  | braceClose => "BRACE_CLOSE"
  | singleQuote => "QUOTE_OPEN_SINGLE"
  | doubleQuote => "QUOTE_OPEN_DOUBLE"
  | comma => "COMMA"
  | bracketOpen => "BRACKET_OPEN"
  | bracketClose => "BRACKET_CLOSE"
  | colon => "COLON"
  | float => "FLOAT"
  | int => "INT"
  | bool => "BOOL"
  | null => "NULL"
  | mark => "UNQUOTED_CHAR"
  | name => "ID"
  | escape => "ESC"
  | blank => "WS"
  | closing => "INTER_CLOSE"
  | dot => "'.'"
  | keyPart => "INTER_KEY"
  | quoteClose => "MATCHING_QUOTE_CLOSE"
  | quotedSlashes => "QUOTED_ESC"

/-- Some kinds in a message: several of them stand in braces. -/
def wordOf (ks : List Kind) : String :=
  match all.filter ks.contains with
  | [k] => k.word
  | ks => "\x7b" ++ ", ".intercalate (ks.map word) ++ "\x7d"

end Kind

/-- A piece of a template. -/
structure Token where
  kind : Kind
  text : List Char
  deriving DecidableEq, Repr

/-- What surrounds a place in a template. -/
inductive Mode where
  | text
  | reference
  | arguments
  | quotation (quote : Char)
  deriving DecidableEq, Repr

/-! ### Lengths of tokens -/

/-- A space or a tab. -/
def isBlank (c : Char) : Bool := c == ' ' || c == '\t'

/-- The number of characters of a kind at the start of a text. -/
def run (p : Char → Bool) (s : List Char) : Nat := (s.takeWhile p).length

/-- Some characters at the start of a text, and the blanks after them. -/
def wordLength (word : List Char) (s : List Char) : Nat :=
  if word.isPrefixOf s then word.length + run isBlank (s.drop word.length) else 0

/-- A character with the blanks before it. -/
def closeLength (c : Char) (s : List Char) : Nat :=
  let n := run isBlank s
  if (s.drop n).head? = some c then n + 1 else 0

/-- A character with the blanks on both sides. -/
def betweenLength (c : Char) (s : List Char) : Nat :=
  let n := closeLength c s
  if n = 0 then 0 else n + run isBlank (s.drop n)

/-- A dollar sign and a brace. -/
def openingLength (s : List Char) : Nat := wordLength ['$', '\x7b'] s

/-- Digits, with single low lines between them. -/
def digitsLength : List Char → Nat
  | [] => 0
  | [c] => if c.isDigit then 1 else 0
  | c :: d :: r =>
    if !c.isDigit then 0
    else if d == '_' then
      match digitsLength r with
      | 0 => 1
      | n => n + 2
    else digitsLength (d :: r) + 1

/-- An integer without a sign: a zero, or digits that do not start with one. -/
def unsignedLength : List Char → Nat
  | '0' :: _ => 1
  | s => digitsLength s

/-- A sign. -/
def signLength (s : List Char) : Nat := if s.head?.any (fun c => c == '+' || c == '-') then 1 else 0

/-- An integer. -/
def intLength (s : List Char) : Nat :=
  let n := signLength s
  match unsignedLength (s.drop n) with
  | 0 => 0
  | m => n + m

/-- A number with a point, without a sign. -/
def pointLength (s : List Char) : Nat :=
  let n := unsignedLength s
  if (s.drop n).head? = some '.' then
    match n, digitsLength (s.drop (n + 1)) with
    | 0, 0 => 0
    | n, m => n + 1 + m
  else 0

/-- An exponent. -/
def exponentLength : List Char → Nat
  | c :: r =>
    let n := signLength r
    if c == 'e' || c == 'E' then
      match digitsLength (r.drop n) with
      | 0 => 0
      | m => 1 + n + m
    else 0
  | [] => 0

/-- A word in letters of any size. -/
def spelledLength (word : String) (s : List Char) : Nat :=
  let n := word.length
  if (s.take n).map Char.toLower = word.toList then n else 0

/-- A number with a fraction or an exponent, or the word for one that cannot be
    written in digits. -/
def floatLength (s : List Char) : Nat :=
  let n := signLength s
  let r := s.drop n
  let point := pointLength r
  let whole := if point = 0 then unsignedLength r else point
  let exponent := if whole = 0 then 0 else exponentLength (r.drop whole)
  let word := max (spelledLength "inf" r) (spelledLength "nan" r)
  let body := if exponent = 0 then max point word else whole + exponent
  if body = 0 then 0 else n + body

/-- A letter, a digit or a low line. -/
def isNameChar (c : Char) : Bool := c.isAlphanum || c == '_' || c == '-'

/-- A name: it starts with a letter or a low line. -/
def nameLength (s : List Char) : Nat :=
  if s.head?.any fun c => c.isAlpha || c == '_' then run isNameChar s else 0

/-- A part of a key: blanks, quotation marks, points, colons and brackets of any kind
    only after a backslash. -/
def keyPartLength : List Char → Nat
  | '\\' :: c :: r => if Key.isSpecial c then keyPartLength r + 2 else 0
  | c :: r => if "\\\x7b\x7d()[]:. \t'\"".toList.contains c then 0 else keyPartLength r + 1
  | [] => 0

/-- The characters that need no quotation marks. -/
def isMark (c : Char) : Bool := "/-\\+.$%*@?|".toList.contains c

/-- The characters that a backslash can stand before among arguments. -/
def isEscapable (c : Char) : Bool := "\\()[]\x7b\x7d:=, \t".toList.contains c

/-- Characters with a backslash before each. -/
def escapeLength : List Char → Nat
  | '\\' :: c :: r => if isEscapable c then escapeLength r + 2 else 0
  | _ => 0

/-- A single character of a kind. -/
def oneLength (p : Char → Bool) (s : List Char) : Nat := if s.head?.any p then 1 else 0

/-! ### Tokens -/

/-- The lengths that the tokens of a mode have at a place. -/
def lengths (mode : Mode) (s : List Char) : List (Kind × Nat) :=
  match mode with
  | .reference => [
    (.opening, openingLength s), (.colon, betweenLength ':' s), (.closing, closeLength '\x7d' s),
    (.dot, oneLength (· == '.') s), (.bracketOpen, oneLength (· == '[') s),
    (.bracketClose, oneLength (· == ']') s), (.name, nameLength s), (.keyPart, keyPartLength s)]
  | .arguments => [
    (.opening, openingLength s), (.braceOpen, wordLength ['\x7b'] s),
    (.braceClose, closeLength '\x7d' s), (.singleQuote, oneLength (· == '\'') s),
    (.doubleQuote, oneLength (· == '"') s), (.comma, betweenLength ',' s),
    (.bracketOpen, wordLength ['['] s), (.bracketClose, closeLength ']' s),
    (.colon, betweenLength ':' s), (.float, floatLength s),
    (.int, intLength s), (.bool, max (spelledLength "true" s) (spelledLength "false" s)),
    (.null, spelledLength "null" s), (.mark, oneLength isMark s), (.name, nameLength s),
    (.escape, escapeLength s), (.blank, run isBlank s)]
  | .text =>
    let n := run (· == '\\') s
    [(.opening, openingLength s), (.plain, run (fun c => c != '\\' && c != '$') s),
      (.escapedOpening, if n % 2 = 1 ∧ openingLength (s.drop n) ≠ 0 then n + 2 else 0),
      (.slashes, n - n % 2), (.plain, n), (.plain, oneLength (· == '$') s)]
  | .quotation quote =>
    let n := run (· == '\\') s
    [(.opening, openingLength s), (.quoteClose, oneLength (· == quote) s),
      (.plain, run (fun c => c != '\\' && c != '$' && c != quote) s),
      (.escapedOpening, if n % 2 = 1 ∧ openingLength (s.drop n) ≠ 0 then n + 2 else 0),
      (.escape, if n % 2 = 1 ∧ (s.drop n).head? = some quote then n + 1 else 0),
      (.quotedSlashes, n - n % 2), (.plain, n), (.plain, oneLength (· == '$') s)]

/-- The longest token of a mode at a place; of equally long ones, the first. -/
def longest (mode : Mode) (s : List Char) : Kind × Nat :=
  (lengths mode s).foldl (fun best l => if best.2 < l.2 then l else best) (.plain, 0)

/-- What surrounds the place after a token; `none` where something is closed that was
    not opened. -/
def after (modes : List Mode) (t : Token) : Option (List Mode) :=
  match t.kind, modes with
  | .opening, ms => some (.reference :: ms)
  | .colon, .reference :: ms => some (.arguments :: ms)
  | .braceOpen, ms => some (.arguments :: ms)
  | .singleQuote, ms | .doubleQuote, ms => some (.quotation (t.text.headD '"') :: ms)
  | .closing, _ :: m :: ms | .braceClose, _ :: m :: ms | .quoteClose, _ :: m :: ms => some (m :: ms)
  | .closing, _ | .braceClose, _ | .quoteClose, _ => none
  | _, ms => some ms

/-- How a text ends after its last token. -/
inductive Ending where
  /-- The text is split to its end. -/
  | complete
  /-- No token starts with these characters. -/
  | unreadable (text : List Char)
  /-- Something is closed that was not opened. -/
  | unopened
  deriving DecidableEq, Repr

/-- The characters that a place was read up to before no token was found: the blanks or
    the backslash that some tokens may start with, and one more. -/
def refused (mode : Mode) (s : List Char) : List Char :=
  match mode with
  | .reference => s.take (if s.head? == some '\\' then 2 else run isBlank s + 1)
  | _ => s.take 1

/-- The tokens of a text inside of what was opened.  Fuel bounds their number. -/
def tokensFrom : (fuel : Nat) → List Mode → List Char → List Token × Ending
  | 0, _, s => ([], .unreadable s)
  | _ + 1, _, [] => ([], .complete)
  | fuel + 1, modes, s =>
    let mode := modes.headD .text
    let (kind, n) := longest mode s
    if n = 0 then ([], .unreadable (refused mode s))
    else
      let t : Token := ⟨kind, s.take n⟩
      match after modes t with
      | none => ([], .unopened)
      | some modes =>
        let (ts, ending) := tokensFrom fuel modes (s.drop n)
        (t :: ts, ending)

/-- The tokens of a text in a mode. -/
def tokens (mode : Mode) (s : List Char) : List Token × Ending :=
  tokensFrom (s.length + 1) [mode] s

end Chip8.Settings.Template
