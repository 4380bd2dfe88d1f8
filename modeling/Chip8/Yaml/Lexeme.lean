/-
  Chip8/Yaml/Lexeme.lean
  ======================
  **Single tokens of a YAML text** — for every kind of token that carries text,
  a function from the characters at its start to its text and the characters
  after it.

  Each function consumes at least the token's first character, and each is
  bounded by the length of its input.
-/
import Chip8.Yaml.Token

namespace Chip8.Yaml

/-- Nothing can be read on: what is left starts with what is wrong. -/
def refuse {α : Type} (a : Activity) (problem : String) (s : List Char) : Except Error α :=
  .error (.badToken { activity := some a, problem, place := .before s.length })

/-! ### Plain scalars -/

/-- Reading a plain scalar. -/
def plainScalar : Activity := .scanning "a plain scalar"

/-- The characters that end a plain scalar inside brackets or braces. -/
def isFlowIndicator (c : Char) : Bool :=
  c == ',' || c == '[' || c == ']' || c == '{' || c == '}'

/-- A text starts with a character that may not follow a colon inside brackets. -/
def startsIndicator (s : List Char) : Bool := s.head?.any fun c => isFlowIndicator c || c == '?'

/-- The characters of a plain scalar up to a blank or an indicator that ends it.
    Inside brackets a colon may not stand directly before an indicator. -/
def plainChunk (flow : Bool) : List Char → Except Error (List Char × List Char)
  | [] => .ok ([], [])
  | c :: r =>
    if isBlank c || isBreak c then .ok ([], c :: r)
    else if flow && c == ':' && startsIndicator r then
      refuse plainScalar "found unexpected ':'" (c :: r)
    else if (c == ':' && startsBlank r) || (flow && isFlowIndicator c) then .ok ([], c :: r)
    else do
      let (cs, rest) ← plainChunk flow r
      .ok (c :: cs, rest)

/-- A run of blanks and line breaks. -/
def blanks (s : List Char) : List Char × List Char := s.span fun c => isBlank c || isBreak c

/-- A run of blanks and breaks from the first tab on that stands where the run is to indent
    a line down to the given indentation.  There is no column before the first break. -/
def misplacedTab? (indent : Int) : (column : Option Nat) → List Char → Option (List Char)
  | _, [] => none
  | column, c :: r =>
    if isBreak c then misplacedTab? indent (some 0) r
    else match column with
      | none => misplacedTab? indent none r
      | some k =>
        if c == '\t' && (k : Int) < indent + 1 then some (c :: r)
        else misplacedTab? indent (some (k + 1)) r

/-- A plain scalar from a column on: chunks with folded blanks between them, down
    to the given indentation.  The third part says whether it ran into a new
    line.  Fuel bounds the number of chunks. -/
def plainText (flow : Bool) (indent : Int) :
    (fuel : Nat) → (column : Nat) → (pending : List Char) → (newLine : Bool) → List Char →
      Except Error (List Char × List Char × Bool)
  | 0, _, _, newLine, s => .ok ([], s, newLine)
  | fuel + 1, column, pending, newLine, s =>
    if (column == 0 && startsMarker s) || s.head? == some '#' then .ok ([], s, newLine)
    else do
      let (chunk, r) ← plainChunk flow s
      if chunk.isEmpty then .ok ([], s, newLine)
      else
        let text := pending ++ chunk
        let (run, after) := blanks r
        if run.isEmpty then .ok (text, r, false)
        else
          let broken := run.any isBreak
          let column := if broken then (lastLine run).length else column + chunk.length + run.length
          match misplacedTab? indent none run with
          | some tab =>
            refuse plainScalar "found a tab character that violates indentation" (tab ++ after)
          | none =>
            if !flow && (column : Int) < indent + 1 then .ok (text, after, broken)
            else do
              let (more, rest, line) ← plainText flow indent fuel column (fold run) broken after
              .ok (text ++ more, rest, line)

/-! ### Quoted scalars -/

/-- The value of a hexadecimal digit. -/
def hexValue? (c : Char) : Option Nat :=
  if c.isDigit then some (c.toNat - '0'.toNat)
  else if 'a' ≤ c ∧ c ≤ 'f' then some (c.toNat - 'a'.toNat + 10)
  else if 'A' ≤ c ∧ c ≤ 'F' then some (c.toNat - 'A'.toNat + 10)
  else none

/-- Escapes of one letter. -/
def escapeChar? : Char → Option Char
  | '0' => some '\x00'
  | 'a' => some '\x07'
  | 'b' => some '\x08'
  | 't' => some '\t'
  | '\t' => some '\t'
  | 'n' => some '\n'
  | 'v' => some '\x0b'
  | 'f' => some '\x0c'
  | 'r' => some '\r'
  | 'e' => some '\x1b'
  | ' ' => some ' '
  | '"' => some '"'
  | '/' => some '/'
  | '\\' => some '\\'
  | 'N' => some '\u0085'
  | '_' => some '\u00a0'
  | 'L' => some '\u2028'
  | 'P' => some '\u2029'
  | _ => none

/-- The number of digits of a numeric escape. -/
def escapeWidth? : Char → Option Nat
  | 'x' => some 2
  | 'u' => some 4
  | 'U' => some 8
  | _ => none

/-- The character of a code point; surrogates and larger numbers have none. -/
def charOfCode? (n : Nat) : Option Char :=
  if n < 0xD800 ∨ (0xE000 ≤ n ∧ n ≤ 0x10FFFF) then some (Char.ofNat n) else none

/-- Reading a scalar in quotes. -/
def quotedScalar : Activity := .scanning "a quoted scalar"

/-- Reading an escape in a scalar. -/
def quotedEscape : Activity := .parsing "a quoted scalar"

/-- A scalar in quotes does not end. -/
def unending {α : Type} : Except Error α :=
  refuse quotedScalar "found unexpected end of stream" []

/-- A document ends inside of quotes. -/
def markedInside {α : Type} (s : List Char) : Except Error α :=
  refuse quotedScalar "found unexpected document indicator" s

/-- The character that an escape stands for after its backslash, and what follows it. -/
def escape (s : List Char) : Except Error (Char × List Char) :=
  let unknown : Except Error (Char × List Char) :=
    refuse quotedEscape "found unknown escape character" ('\\' :: s)
  match s with
  | [] => unknown
  | c :: r =>
    match escapeChar? c, escapeWidth? c with
    | some d, _ => .ok (d, r)
    | none, some w =>
      let ds := (r.take w).map hexValue?
      if ds.length = w ∧ ds.all Option.isSome then
        match charOfCode? (ds.foldl (fun n d => 16 * n + d.getD 0) 0) with
        | some d => .ok (d, r.drop w)
        | none => refuse quotedEscape "found invalid Unicode character escape code" r
      else refuse quotedEscape "did not find expected hexdecimal number" r
    | none, none => unknown

/-- The inside of a single-quoted scalar; a quote is written twice. -/
def singleQuoted : (fuel : Nat) → List Char → Except Error (List Char × List Char)
  | 0, _ => unending
  | _ + 1, [] => unending
  | _ + 1, ['\''] => .ok ([], [])
  | fuel + 1, '\'' :: '\'' :: r => do
    let (cs, rest) ← singleQuoted fuel r
    .ok ('\'' :: cs, rest)
  | _ + 1, '\'' :: r => .ok ([], r)
  | fuel + 1, c :: r =>
    if isBlank c || isBreak c then
      let (run, after) := blanks (c :: r)
      if run.any isBreak && (lastLine run).isEmpty && startsMarker after then markedInside after
      else do
        let (cs, rest) ← singleQuoted fuel after
        .ok (fold run ++ cs, rest)
    else do
      let (cs, rest) ← singleQuoted fuel r
      .ok (c :: cs, rest)

/-- The inside of a double-quoted scalar, with escapes; an escaped line break
    joins two lines. -/
def doubleQuoted : (fuel : Nat) → List Char → Except Error (List Char × List Char)
  | 0, _ => unending
  | _ + 1, [] => unending
  | _ + 1, '"' :: r => .ok ([], r)
  | fuel + 1, '\\' :: r =>
    if r.head?.any isBreak then
      let (run, after) := blanks r
      if (lastLine run).isEmpty && startsMarker after then markedInside after
      else do
        let (cs, rest) ← doubleQuoted fuel after
        .ok ((lineBreaks run).drop 1 ++ cs, rest)
    else do
      let (d, r) ← escape r
      let (cs, rest) ← doubleQuoted fuel r
      .ok (d :: cs, rest)
  | fuel + 1, c :: r =>
    if isBlank c || isBreak c then
      let (run, after) := blanks (c :: r)
      if run.any isBreak && (lastLine run).isEmpty && startsMarker after then markedInside after
      else do
        let (cs, rest) ← doubleQuoted fuel after
        .ok (fold run ++ cs, rest)
    else do
      let (cs, rest) ← doubleQuoted fuel r
      .ok (c :: cs, rest)

/-! ### Block scalars -/

/-- The end of a line: blanks, a comment after a blank, and a line break or the
    end of the text. -/
def lineEnd (a : Activity) (s : List Char) : Except Error (List Char) :=
  let r := s.dropWhile isBlank
  let r := if r.head? == some '#' then r.dropWhile fun c => !isBreak c else r
  match r with
  | [] => .ok []
  | '\r' :: '\n' :: r => .ok r
  | c :: r =>
    if isBreak c then .ok r else refuse a "did not find expected comment or line break" (c :: r)

/-- Reading a block scalar. -/
def blockActivity : Activity := .scanning "a block scalar"

/-- How a block scalar treats the line breaks at its end. -/
inductive Chomp where
  | strip
  | clip
  | keep
  deriving DecidableEq, Repr

/-- The header of a block scalar: its chomping and indentation marks in either
    order. -/
def blockHeader (s : List Char) : Except Error (Chomp × Option Nat × List Char) :=
  let chomp? : Char → Option Chomp := fun c =>
    if c == '-' then some .strip else if c == '+' then some .keep else none
  let step? : Char → Option Nat := fun c => if c.isDigit then some (c.toNat - '0'.toNat) else none
  let ending (chomp : Chomp) (step : Option Nat) (r : List Char) :=
    (lineEnd blockActivity r).map fun rest => (chomp, step, rest)
  let zero (r : List Char) : Except Error (Chomp × Option Nat × List Char) :=
    refuse blockActivity "found an indentation indicator equal to 0" r
  match s with
  | c :: r => match chomp? c, step? c with
    | some chomp, _ => match r with
      | d :: r' => match step? d with
        | some 0 => zero r
        | some n => ending chomp (some n) r'
        | none => ending chomp none r
      | [] => ending chomp none r
    | none, some 0 => zero s
    | none, some n => match r with
      | d :: r' => match chomp? d with
        | some chomp => ending chomp (some n) r'
        | none => ending .clip (some n) r
      | [] => ending .clip (some n) r
    | none, none => ending .clip none s
  | [] => .ok (.clip, none, [])

/-- The space before the next line of a block scalar: the line breaks passed over,
    the column reached, the largest column on the way and the text from there on. -/
structure LeadIn where
  breaks : List Char
  column : Nat
  widest : Nat
  rest : List Char

/-- Move over spaces and line breaks.  Spaces count up to the indentation, if it is
    known, and a tab must not stand among them. -/
def leadIn (width : Option Nat) :
    (column widest : Nat) → List Char → Except Error LeadIn
  | column, widest, [] => .ok ⟨[], column, max widest column, []⟩
  | column, widest, c :: r =>
    let indenting := width.all fun w => decide (column < w)
    if indenting && c == ' ' then leadIn width (column + 1) widest r
    else if indenting && c == '\t' then
      refuse blockActivity "found a tab character where an indentation space is expected" (c :: r)
    else if isBreak c then
      if c == '\r' && r.head? == some '\n' then leadIn width column widest r
      else (leadIn width 0 (max widest column) r).map fun l =>
        { l with breaks := breakValue c :: l.breaks }
    else .ok ⟨[], column, max widest column, c :: r⟩

/-- Split off a line break, if there is one; what it stands for comes first. -/
def lineBreak : List Char → List Char × List Char
  | '\r' :: '\n' :: r => (['\n'], r)
  | c :: r => if isBreak c then ([breakValue c], r) else ([], c :: r)
  | [] => ([], [])

/-- The content of a block scalar so far: its text, last character first, and the line
    breaks after it of which it is not yet known what becomes of them. -/
structure BlockText where
  text : List Char := []
  /-- The break that ended the last line. -/
  ending : List Char := []
  /-- The last line started with a blank. -/
  indented : Bool := false
  /-- The breaks of the empty lines after it. -/
  trailing : List Char

/-- Join a line to a block scalar.  In a folded one, an ordinary break between two
    lines that do not start with a blank is a space, or nothing before empty lines. -/
def BlockText.join (b : BlockText) (folded : Bool) (line ending : List Char) : BlockText :=
  let indented := line.head?.any isBlank
  let seam :=
    if folded && b.ending == ['\n'] && !b.indented && !indented then
      if b.trailing.isEmpty then [' '] else []
    else b.ending
  { text := (seam ++ b.trailing ++ line).reverse ++ b.text, ending, indented, trailing := [] }

/-- The lines of a block scalar that are indented by its width, and the text after
    them.  Fuel bounds their number. -/
def blockLines (folded : Bool) (width : Nat) :
    (fuel : Nat) → BlockText → (column : Nat) → List Char →
      Except Error (BlockText × List Char)
  | 0, b, _, s => .ok (b, s)
  | fuel + 1, b, column, s =>
    if column ≠ width || s.isEmpty then .ok (b, s)
    else do
      let (line, r) := s.span fun c => !isBreak c
      let (ending, r) := lineBreak r
      let l ← leadIn (some width) 0 0 r
      blockLines folded width fuel { b.join folded line ending with trailing := l.breaks }
        l.column l.rest

/-- A block scalar after its indicator, inside a block of the given indentation.  The
    width that is not announced is that of the first line, or of the deepest of the
    empty lines before it. -/
def blockScalar (folded : Bool) (indent : Int) (s : List Char) :
    Except Error (List Char × List Char) := do
  let (chomp, step, body) ← blockHeader s
  let announced := step.map fun n => if 0 ≤ indent then indent.toNat + n else n
  let l ← leadIn announced 0 0 body
  let width := announced.getD (max l.widest (max (indent + 1).toNat 1))
  let (b, rest) ← blockLines folded width (body.length + 1) { trailing := l.breaks } l.column
    l.rest
  let tail := match chomp with
    | .strip => []
    | .clip => b.ending
    | .keep => b.ending ++ b.trailing
  .ok (b.text.reverse ++ tail, rest)

/-! ### Names -/

/-- The name of an anchor or alias. -/
def wordName (a : Activity) (s : List Char) : Except Error (List Char × List Char) :=
  let (name, r) := s.span isWordChar
  let ends := match r with
    | [] => true
    | c :: _ => startsBlank r || "?:,]\x7d%@\x60".toList.contains c
  if name.isEmpty || !ends then
    refuse a "did not find expected alphabetic or numeric character" r
  else .ok (name, r)

/-- Where the characters of a tag stand: in a tag, or in what a handle stands for. -/
inductive TagPlace where
  | tag
  | directive
  deriving DecidableEq, Repr

/-- Reading the characters of a tag. -/
def TagPlace.activity : TagPlace → Activity
  | tag => .parsing "a tag"
  | directive => .parsing "a %TAG directive"

/-- A character of a tag; between angle brackets there are three more. -/
def isTagChar (bracketed : Bool) (c : Char) : Bool :=
  isWordChar c || ";/?:@&=+$.!~*'()".toList.contains c || (bracketed && ",[]".toList.contains c)

/-- The value of two hexadecimal digits. -/
def octet? (a b : Char) : Option Nat :=
  match hexValue? a, hexValue? b with
  | some m, some n => some (16 * m + n)
  | _, _ => none

/-- The octet at the start of a text, after a percent sign. -/
def octet (p : TagPlace) (s : List Char) : Except Error (Nat × List Char) :=
  let absent : Except Error (Nat × List Char) :=
    refuse p.activity "did not find URI escaped octet" s
  match s with
  | '%' :: a :: b :: r =>
    match octet? a b with
    | some n => .ok (n, r)
    | none => absent
  | _ => absent

/-- The number of octets of a character whose encoding starts with an octet. -/
def octetCount? (n : Nat) : Option Nat :=
  if n < 0x80 then some 1
  else if n < 0xC0 then none
  else if n < 0xE0 then some 2
  else if n < 0xF0 then some 3
  else if n < 0xF8 then some 4
  else none

/-- The following `count` octets of an encoded character, each after a percent sign. -/
def laterOctets (p : TagPlace) :
    (count : Nat) → List Char → Except Error (List Nat × List Char)
  | 0, s => .ok ([], s)
  | count + 1, s => do
    let (n, r) ← octet p s
    if n < 0x80 || 0xC0 ≤ n then
      refuse p.activity "found an incorrect trailing UTF-8 octet" s
    else do
      let (ns, rest) ← laterOctets p count r
      .ok (n :: ns, rest)

/-- The least code point that takes so many octets. -/
def leastCode (count : Nat) : Nat :=
  if count ≤ 1 then 0 else if count = 2 then 0x80 else if count = 3 then 0x800 else 0x10000

/-- A character whose encoding is written in octets, each after a percent sign. -/
def octetChar (p : TagPlace) (s : List Char) : Except Error (Char × List Char) := do
  let (n, r) ← octet p s
  match octetCount? n with
  | none => refuse p.activity "found an incorrect leading UTF-8 octet" s
  | some count =>
    let (ns, rest) ← laterOctets p (count - 1) r
    let first := if count ≤ 1 then n else n % Nat.pow 2 (7 - count)
    let code := ns.foldl (fun code n => 64 * code + n % 64) first
    match charOfCode? code with
    | some c => if code < leastCode count then .error (.badEscape n 0) else .ok (c, rest)
    | none => .error (.badEscape n 0)

/-- The characters of a tag, with escapes.  Fuel bounds their number. -/
def tagChars (p : TagPlace) (bracketed : Bool) :
    (fuel : Nat) → List Char → Except Error (List Char × List Char)
  | 0, s => .ok ([], s)
  | _ + 1, [] => .ok ([], [])
  | fuel + 1, c :: r =>
    if c == '%' then do
      let (d, r) ← octetChar p (c :: r)
      let (cs, rest) ← (tagChars p bracketed fuel r).mapError (Error.after d.utf8Size)
      .ok (d :: cs, rest)
    else if isTagChar bracketed c then do
      let (cs, rest) ← (tagChars p bracketed fuel r).mapError (Error.after 1)
      .ok (c :: cs, rest)
    else .ok ([], c :: r)

/-- The characters of a tag, at least one of them. -/
def tagBody (p : TagPlace) (bracketed : Bool) (s : List Char) :
    Except Error (List Char × List Char) := do
  let (name, r) ← tagChars p bracketed (s.length + 1) s
  if name.isEmpty then refuse p.activity "did not find expected tag URI" r else .ok (name, r)

/-- Characters of a tag that ends at a zero character. -/
def tagText (cs : List Char) : String := String.ofList (cs.takeWhile (· != '\x00'))

/-- Reading a tag. -/
def tagActivity : Activity := .scanning "a tag"

/-- What the names of the standard tags start with. -/
def standardTags : String := "tag:yaml.org,2002:"

/-- The size of what a handle stands for, if that is known without directives. -/
def handleSize (word : List Char) : Nat := if word.isEmpty then standardTags.length else 0

/-- A tag after its mark, as its handle and the rest.  Between angle brackets the tag
    is given in full; a second mark after a word ends a handle; the mark alone is a
    tag in full, too. -/
def tagParts (s : List Char) : Except Error (Token × List Char) :=
  match s with
  | '<' :: r => do
    let (name, r) ← tagBody .tag true r
    match r with
    | '>' :: r => .ok (.tag "" (tagText name), r)
    | _ => refuse tagActivity "did not find the expected '>'" r
  | _ => do
    let (word, r) := s.span isWordChar
    match r with
    | '!' :: r =>
      let (name, r) ← (tagBody .tag false r).mapError (Error.after (handleSize word))
      .ok (.tag (String.ofList ('!' :: word ++ ['!'])) (tagText name), r)
    | _ =>
      let (name, r) ← (tagChars .tag false (r.length + 1) r).mapError
        (Error.after (word.length + 1))
      let name := word ++ name
      if name.isEmpty then .ok (.tag "" "!", r) else .ok (.tag "!" (tagText name), r)

/-- A tag after its mark; it has to end before a blank or, in brackets, a comma. -/
def tagToken (flow : Bool) (s : List Char) : Except Error (Token × List Char) := do
  let (t, r) ← tagParts s
  if startsBlank r || (flow && r.head? == some ',') then .ok (t, r)
  else refuse tagActivity "did not find expected whitespace or line break" r

/-! ### Directives -/

/-- Reading a directive. -/
def directiveActivity : Activity := .scanning "a directive"

/-- Reading a directive with a version. -/
def versionActivity : Activity := .scanning "a %YAML directive"

/-- Reading a directive with a handle. -/
def handleActivity : Activity := .scanning "a %TAG directive"

/-- The most digits of a number in a version. -/
def versionDigits : Nat := 9

/-- A number of a version: no more than nine digits. -/
def versionNumber (s : List Char) : Except Error (Nat × List Char) :=
  let (ds, r) := s.span Char.isDigit
  if ds.isEmpty then refuse versionActivity "did not find expected version number" s
  else if versionDigits < ds.length then
    refuse versionActivity "found extremely long version number" (s.drop versionDigits)
  else .ok (ds.foldl (fun n c => 10 * n + (c.toNat - '0'.toNat)) 0, r)

/-- The version in a directive. -/
def versionToken (s : List Char) : Except Error (Token × List Char) := do
  let (major, r) ← versionNumber (s.dropWhile isBlank)
  match r with
  | '.' :: r =>
    let (minor, r) ← versionNumber r
    .ok (.version major minor, r)
  | _ => refuse versionActivity "did not find expected digit or '.' character" r

/-- The name of a handle: one mark, or a word, which may be empty, between two. -/
def handleName (s : List Char) : Except Error (List Char × List Char) :=
  let noMark := "did not find expected '!'"
  match s with
  | '!' :: r =>
    let (word, r) := r.span isWordChar
    match r with
    | '!' :: r => .ok ('!' :: word ++ ['!'], r)
    | _ =>
      if word.isEmpty then .ok (['!'], r) else refuse (.parsing "a tag directive") noMark r
  | _ => refuse (.scanning "a tag directive") noMark s

/-- The handle in a directive, and what it stands for. -/
def handleToken (s : List Char) : Except Error (Token × List Char) := do
  let (name, r) ← handleName (s.dropWhile isBlank)
  if !(r.head?.any isBlank) then
    refuse handleActivity "did not find expected whitespace" r
  else
    let (expansion, r) ← tagBody .directive true (r.dropWhile isBlank)
    if !startsBlank r then
      refuse handleActivity "did not find expected whitespace or line break" r
    else .ok (.handle (String.ofList name) (tagText expansion), r)

/-- A directive after its mark, up to the end of its line. -/
def directiveToken (s : List Char) : Except Error (Token × List Char) := do
  let (name, r) := s.span isWordChar
  if name.isEmpty then
    refuse directiveActivity "could not find expected directive name" r
  else if !startsBlank r then
    refuse directiveActivity "found unexpected non-alphabetical character" r
  else
    let (t, r) ←
      if name = "YAML".toList then versionToken r
      else if name = "TAG".toList then handleToken r
      else refuse directiveActivity "found unknown directive name" r
    return (t, ← lineEnd directiveActivity r)

end Chip8.Yaml
