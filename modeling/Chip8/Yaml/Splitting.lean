/-
  Chip8/Yaml/Splitting.lean
  =========================
  **Splitting a YAML text into tokens** — indentation becomes tokens that open
  and close blocks, and a scalar that turns out to be the key of a mapping gets
  a key token put in front of it after the fact.

  Tokens are split off one at a time, as they are asked for, so that whoever reads
  them meets an error in the text only when it is reached: `peek` looks at the
  next token, and splits on while that token may still become a key.
-/
import Chip8.Yaml.Lexeme

namespace Chip8.Yaml

/-- A token that may still turn out to be the key of a mapping. -/
structure KeyCandidate where
  /-- Its place among all tokens. -/
  number : Nat
  /-- The block demands a key here. -/
  required : Bool
  index : Nat
  line : Nat
  column : Nat
  place : Place
  deriving DecidableEq, Repr

/-- A text in the middle of being split. -/
structure Splitting where
  rest : List Char
  index : Nat
  line : Nat
  column : Nat
  /-- The indentation of the innermost block; -1 outside of all. -/
  indent : Int
  /-- The indentations of the enclosing blocks. -/
  outer : List Int
  /-- A key may start here. -/
  keyAllowed : Bool
  /-- The candidates of the enclosing brackets, innermost first; the first one
      belongs to the place itself. -/
  candidates : List (Option KeyCandidate)
  /-- All tokens so far, with the places where they start. -/
  tokens : Array (Token × Place)
  /-- The number of tokens that were read. -/
  taken : Nat
  deriving Repr

namespace Splitting

/-- A text before its first token. -/
def start (text : List Char) : Splitting where
  rest := text
  index := 0
  line := 0
  column := 0
  indent := -1
  outer := []
  keyAllowed := true
  candidates := [none]
  tokens := #[]
  taken := 0

/-- Inside brackets or braces. -/
def inFlow (s : Splitting) : Bool := 1 < s.candidates.length

/-- Move over the next character. -/
def skip (s : Splitting) : Splitting :=
  match s.rest with
  | [] => s
  | c :: r =>
    let s := { s with rest := r, index := s.index + 1 }
    if isBreak c && !(c == '\r' && r.head? == some '\n') then
      { s with line := s.line + 1, column := 0 }
    else { s with column := s.column + 1 }

/-- Move on until `r` is left. -/
def skipTo (s : Splitting) (r : List Char) : Splitting :=
  (s.rest.length - r.length).repeat skip s

/-- The place that has been reached. -/
def here (s : Splitting) : Place := .before s.rest.length

/-- Append a token that starts at a place. -/
def emit (s : Splitting) (place : Place) (t : Token) : Splitting :=
  { s with tokens := s.tokens.push (t, place) }

/-- Insert a token among earlier ones. -/
def emitAt (s : Splitting) (number : Nat) (place : Place) (t : Token) : Splitting :=
  { s with tokens := s.tokens.insertIdxIfInBounds number (t, place) }

/-- What stands here must not stand here. -/
def misplaced {α : Type} (s : Splitting) (what : String) : Except Error α :=
  let problem := what ++ " are not allowed in this context"
  .error (.badToken { problem, place := s.here })

/-! ### Candidates for keys -/

/-- A key that has to be one is none, as is seen at a place. -/
def unkept {α : Type} (k : KeyCandidate) (place : Place) : Except Error α :=
  .error (.badToken {
    activity := some (.scanning "a simple key"), start := some k.place
    problem := "could not find expected ':'", place })

/-- Give up the candidate of the innermost level at a place; a required one must not be
    given up. -/
def dropCandidate (s : Splitting) (place : Place) : Except Error Splitting :=
  match s.candidates with
  | some k :: ks => if k.required then unkept k place else .ok { s with candidates := none :: ks }
  | _ => .ok s

/-- Make the next token a candidate where a key may start. -/
def saveCandidate (s : Splitting) : Except Error Splitting := do
  if !s.keyAllowed then return s
  let required := !s.inFlow && s.indent == (s.column : Int)
  let s ← s.dropCandidate s.here
  let k : KeyCandidate := ⟨s.tokens.size, required, s.index, s.line, s.column, s.here⟩
  return { s with candidates := some k :: s.candidates.tail }

/-- A key ends on the line it starts on and within 1024 characters. -/
def stale (s : Splitting) (k : KeyCandidate) : Bool := k.line < s.line || k.index + 1024 < s.index

/-- Give up the candidates that can no longer be keys; a required one must not be
    given up. -/
def dropStale (s : Splitting) : Except Error Splitting :=
  match (s.candidates.reverse.filterMap id).find? fun k => k.required && s.stale k with
  | some k => unkept k s.here
  | none => .ok { s with candidates := s.candidates.map (·.filter fun k => !s.stale k) }

/-! ### Indentation -/

/-- Open a block at a column that is deeper than the innermost block; its token
    goes to the end or among earlier ones. -/
def openBlock (s : Splitting) (column : Nat) (number : Option Nat) (place : Place) (t : Token) :
    Splitting :=
  if s.inFlow || (column : Int) ≤ s.indent then s
  else
    let s := { s with outer := s.indent :: s.outer, indent := column }
    match number with
    | some n => s.emitAt n place t
    | none => s.emit place t

/-- Close the blocks that are deeper than a column, at a place. -/
def closeBlocks (s : Splitting) (column : Int) (place : Place) : Splitting :=
  if s.inFlow then s
  else
    let opened := s.indent :: s.outer
    let closed := opened.takeWhile (column < ·)
    match opened.drop closed.length with
    | i :: outer =>
      let ends := closed.map fun _ => (Token.blockEnd, place)
      { s with indent := i, outer, tokens := s.tokens ++ ends }
    | [] => s

/-! ### Tokens -/

/-- Move to the next token: over blanks, comments and line breaks.  A tab is a
    blank only where no key may start; a line break outside of brackets lets a
    key start.  Fuel bounds the number of characters. -/
def toToken : (fuel : Nat) → Splitting → Splitting
  | 0, s => s
  | fuel + 1, s =>
    match s.rest with
    | [] => s
    | c :: _ =>
      if c == ' ' || (c == '\t' && (s.inFlow || !s.keyAllowed)) ||
          (c == '\uFEFF' && s.column == 0) then
        toToken fuel s.skip
      else if c == '#' then toToken fuel (s.skipTo (s.rest.dropWhile fun c => !isBreak c))
      else if isBreak c then
        toToken fuel { s.skip with keyAllowed := s.keyAllowed || !s.inFlow }
      else s

/-- A token of one character that no key candidate survives. -/
def indicator (s : Splitting) (t : Token) (keyAllowed : Bool) : Except Error Splitting := do
  let s ← s.dropCandidate s.here
  return { s.skip.emit s.here t with keyAllowed }

/-- An opening bracket or brace. -/
def opening (s : Splitting) (t : Token) : Except Error Splitting := do
  let s ← s.saveCandidate
  return { s.skip.emit s.here t with keyAllowed := true, candidates := none :: s.candidates }

/-- A closing bracket or brace. -/
def closing (s : Splitting) (t : Token) : Except Error Splitting := do
  let s ← s.dropCandidate s.here
  let outer := match s.candidates with
    | _ :: k :: ks => k :: ks
    | ks => ks
  return { s.skip.emit s.here t with keyAllowed := false, candidates := outer }

/-- A mark that opens a block outside of brackets; `what` is what it marks. -/
def blockMark (s : Splitting) (what : String) (opens t : Token) (keyAllowed : Bool) :
    Except Error Splitting :=
  if s.inFlow then s.indicator t keyAllowed
  else if s.keyAllowed then (s.openBlock s.column none s.here opens).indicator t keyAllowed
  else s.misplaced what

/-- A colon: the candidate before it becomes a key; without one it follows a
    complex key. -/
def colon (s : Splitting) : Except Error Splitting :=
  match s.candidates with
  | some k :: ks =>
    let s := { s with candidates := none :: ks, keyAllowed := false }
    let s := s.emitAt k.number k.place .key
    let s := s.openBlock k.column (some k.number) k.place .blockMappingStart
    .ok (s.skip.emit s.here .value)
  | _ => do
    if !s.inFlow && !s.keyAllowed then s.misplaced "mapping values"
    else
      let s := s.openBlock s.column none s.here .blockMappingStart
      .ok { s.skip.emit s.here .value with keyAllowed := !s.inFlow }

/-- Read a token that starts here. -/
def reading {α : Type} (s : Splitting) (x : Except Error α) : Except Error α :=
  x.mapError fun e => e.during s.here

/-- A token that may be a key, after its first character. -/
def longToken (s : Splitting) (read : List Char → Except Error (Token × List Char)) :
    Except Error Splitting := do
  let s ← s.saveCandidate
  let (t, rest) ← s.reading (read s.rest.tail)
  return { (s.skipTo rest).emit s.here t with keyAllowed := false }

/-- A token that carries text and may be a key. -/
def wordToken (s : Splitting) (read : List Char → Except Error (List Char × List Char))
    (make : String → Token) : Except Error Splitting :=
  s.longToken fun r => (read r).map fun (text, rest) => (make (String.ofList text), rest)

/-- A plain scalar. -/
def plainToken (s : Splitting) : Except Error Splitting := do
  let s ← s.saveCandidate
  let (text, rest, newLine) ←
    s.reading (plainText s.inFlow s.indent (s.rest.length + 1) s.column [] false s.rest)
  let t : Token := .scalar .plain (String.ofList text)
  return { (s.skipTo rest).emit s.here t with keyAllowed := newLine }

/-- A marker or directive, which closes all blocks. -/
def documentToken (s : Splitting) (read : List Char → Except Error (Token × List Char)) :
    Except Error Splitting := do
  let s ← (s.closeBlocks (-1) s.here).dropCandidate s.here
  let (t, rest) ← s.reading (read s.rest)
  return { (s.skipTo rest).emit s.here t with keyAllowed := false }

/-- Whether a plain scalar may start with `c` before `r`. -/
def startsPlain (flow : Bool) (c : Char) (r : List Char) : Bool :=
  if c == '-' then !(r.head?.any isBlank)
  else if c == '?' || c == ':' then !flow && !startsBlank r
  else !("-?:,[]\x7b\x7d#&*!|>'\"%@\x60".toList.contains c) && !isBlank c && !isBreak c

/-- Read the token at the place of the scanner, which is not the end. -/
def token (s : Splitting) (c : Char) (r : List Char) : Except Error Splitting :=
  if s.column == 0 && c == '%' then s.documentToken fun t => directiveToken t.tail
  else if s.column == 0 && startsMarker s.rest then
    s.documentToken fun t => .ok (if c == '-' then .documentStart else .documentEnd, t.drop 3)
  else if c == '[' then s.opening .flowSequenceStart
  else if c == '{' then s.opening .flowMappingStart
  else if c == ']' then s.closing .flowSequenceEnd
  else if c == '}' then s.closing .flowMappingEnd
  else if c == ',' then s.indicator .flowEntry true
  else if c == '-' && startsBlank r then
    s.blockMark "block sequence entries" .blockSequenceStart .blockEntry true
  else if c == '?' && (s.inFlow || startsBlank r) then
    s.blockMark "mapping keys" .blockMappingStart .key (!s.inFlow)
  else if c == ':' && (s.inFlow || startsBlank r) then s.colon
  else if c == '*' then s.wordToken (wordName (.scanning "an alias")) .alias
  else if c == '&' then s.wordToken (wordName (.scanning "an anchor")) .anchor
  else if c == '!' then s.longToken (tagToken s.inFlow)
  else if (c == '|' || c == '>') && !s.inFlow then do
    let s ← s.dropCandidate s.here
    let (text, rest) ← s.reading (blockScalar (c == '>') s.indent r)
    let t : Token := .scalar .quoted (String.ofList text)
    return { (s.skipTo rest).emit s.here t with keyAllowed := true }
  else if c == '\'' then s.wordToken (singleQuoted (r.length + 1)) (.scalar .quoted)
  else if c == '"' then s.wordToken (doubleQuoted (r.length + 1)) (.scalar .quoted)
  else if startsPlain s.inFlow c r then s.plainToken
  else
    s.reading (refuse (.other "while scanning for the next token")
      "found character that cannot start any token" s.rest)

/-- The end of the text: a line of its own that closes all blocks. -/
def ending (s : Splitting) : Except Error Splitting := do
  let s := if s.column = 0 then s else { s with line := s.line + 1, column := 0 }
  let s ← (s.closeBlocks (-1) .ending).dropCandidate .ending
  return { s.emit .ending .streamEnd with keyAllowed := false }

/-- Split off one more token. -/
def more (s : Splitting) : Except Error Splitting := do
  let s ← (s.toToken (s.rest.length + 1)).dropStale
  match s.rest with
  | [] => s.ending
  | c :: r => (s.closeBlocks s.column s.here).token c r

/-- The next token may still become a key. -/
def undecided (s : Splitting) : Bool :=
  s.candidates.any fun k => k.any fun k => k.number == s.taken

/-- Split on until it is clear what the next token is.  Fuel bounds the number of
    tokens. -/
def settle : (fuel : Nat) → Splitting → Except Error Splitting
  | 0, s => .ok s
  | fuel + 1, s =>
    if s.tokens.size ≤ s.taken then s.more >>= settle fuel
    else do
      let s ← s.dropStale
      if s.undecided then s.more >>= settle fuel else .ok s

/-- The next token, and where it starts. -/
def peek (s : Splitting) : Except Error ((Token × Place) × Splitting) := do
  let s ← s.settle (s.rest.length + 3)
  return (s.tokens.getD s.taken (.streamEnd, .ending), s)

/-- Move over the next token. -/
def take (s : Splitting) : Splitting := { s with taken := s.taken + 1 }

end Splitting

end Chip8.Yaml
