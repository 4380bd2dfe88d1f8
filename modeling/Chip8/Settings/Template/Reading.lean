/-
  Chip8/Settings/Template/Reading.lean
  ====================================
  **Reading templates** — from the tokens of a text to the template that it is.

  The first token that cannot follow the ones before it is complained about, in one
  of three ways: it is one too many if the token after it fits, a token is missing
  before it if it would fit then, and otherwise it is out of place.  Behind an opening it
  is not yet known whether a key or a function follows; a complaint up to there is
  about all of the text from the opening on.
-/
import Chip8.Settings.Shown
import Chip8.Settings.Template

namespace Chip8.Settings.Template

/-- A text as a value. -/
def ofText (cs : List Char) : Template := literal (.str (String.ofList cs))

/-- The text of some tokens. -/
def textOf (ts : List Token) : String := String.ofList (ts.flatMap Token.text)

/-- Every other character, from the second on: what backslashes stand before. -/
def unescaped : List Char → List Char
  | _ :: c :: r => c :: unescaped r
  | _ => []

/-! ### Values of tokens -/

/-- The text of a token outside of references; `next` is the kind of the token after
    it, if there is one in the same text. -/
def plainText (t : Token) (next : Option Kind) : List Char :=
  match t.kind with
  | .escapedOpening => t.text.drop (t.text.length - (t.text.length / 2 + 1))
  | .escape => unescaped t.text
  | .slashes => if next = some .opening then unescaped t.text else t.text
  | .quotedSlashes => if next = some .opening ∨ next = none then unescaped t.text else t.text
  | _ => t.text

/-- The value of a single token among arguments. -/
def ofToken (t : Token) : Template :=
  match t.kind with
  | .null => literal .null
  | .bool => literal (.bool (t.text.map Char.toLower = "true".toList))
  | .int =>
    match Text.readInt? t.text with
    | some i => literal (.int i)
    | none => overlong
  | .float =>
    let digits := t.text.filter (· != '_')
    literal (.float ((Text.readFloat? digits).getD (0.0 / 0.0)))
  | .escape => ofText (unescaped t.text)
  | .blank => hollow
  | _ => ofText t.text

/-- The value of tokens that stand for one value together: backslashes before a mark are
    left as they are. -/
def ofTokens (ts : List Token) : Template :=
  match ts with
  | [t] => ofToken t
  | _ =>
    if isEscapedMark (textOf ts) then literal (.str (textOf ts))
    else ofText (ts.flatMap fun t => plainText t none)

/-- A single reference in a text stands for its value. -/
def ofParts : List Template → Template
  | [literal s] => join [literal s]
  | [t] => t
  | ts => join ts

/-! ### Sets of tokens -/

/-- The tokens that a text can hold. -/
def textKinds : List Kind :=
  [.opening, .plain, .escape, .escapedOpening, .slashes, .quotedSlashes]

/-- The tokens that a key of a dictionary can hold. -/
def wordKinds : List Kind := [.name, .null, .int, .float, .bool, .mark, .escape, .blank]

/-- The tokens that a value without quotation marks can hold. -/
def bareKinds : List Kind := .colon :: .opening :: wordKinds

/-- The tokens that an argument can start with. -/
def elementKinds : List Kind :=
  [.singleQuote, .doubleQuote, .bracketOpen, .braceOpen] ++ bareKinds

/-- The tokens that arguments can start with. -/
def sequenceKinds : List Kind := .comma :: elementKinds

/-- The tokens that a piece of a key can start with. -/
def pieceKinds : List Kind := [.opening, .name, .keyPart]

/-- The tokens after a part of a key. -/
def partEnds : List Kind := [.dot, .bracketOpen, .closing]

/-! ### Complaints -/

/-- Where reading stopped, and why. -/
structure Stop where
  rest : List Token
  why : Malformed

/-- The tokens of a template that are left. -/
abbrev Rest := List Token

/-- The kind of the next token. -/
def next (ending : Ending) (ts : Rest) : Except Stop Kind :=
  match ts, ending with
  | t :: _, _ => .ok t.kind
  | [], .complete => .ok .ending
  | [], .unreadable text => .error ⟨[], .unreadable (String.ofList text)⟩
  | [], .unopened => .error ⟨[], .unopened⟩

/-- The text of the next token. -/
def nextText (ts : Rest) : String := (ts.head?.map fun t => textOf [t]).getD Kind.ending.word

/-- The next token is out of place, unless the one after it fits. -/
def mismatch {α : Type} (ending : Ending) (expected : List Kind) (ts : Rest) : Except Stop α := do
  let second ← next ending ts.tail
  let text := nextText ts
  .error ⟨ts, if expected.contains second then .extraneous text expected
    else .misplaced text expected⟩

/-- One of some tokens has to be next. -/
def enter (ending : Ending) (expected : List Kind) (ts : Rest) : Except Stop Kind := do
  let k ← next ending ts
  if expected.contains k then return k else mismatch ending expected ts

/-- One of some tokens has to be next after a repetition. -/
def again (ending : Ending) (expected : List Kind) (ts : Rest) : Except Stop Kind := do
  let k ← next ending ts
  if expected.contains k then return k else .error ⟨ts, .extraneous (nextText ts) expected⟩

/-- Move over a token of a kind; `follow` are the tokens that can stand after it. -/
def expect (ending : Ending) (k : Kind) (follow : List Kind) (ts : Rest) : Except Stop Rest := do
  let found ← next ending ts
  if found = k then return ts.tail
  let second ← next ending ts.tail
  if second ≠ k ∧ follow.contains found then .error ⟨ts, .lacking k (nextText ts)⟩
  else mismatch ending [k] ts

/-- Nothing fits after what was read from an opening on. -/
def lost {α : Type} (ending : Ending) (start ts : Rest) : Except Stop α := do
  let _ ← next ending ts
  .error ⟨ts, .noWayOn (textOf (start.take (start.length - ts.length + 1)))⟩

/-- A complaint from where it is not yet known what an opening opens. -/
def unsettled {α : Type} (ending : Ending) (start : Rest) (x : Except Stop α) : Except Stop α :=
  match x with
  | .ok a => .ok a
  | .error stop => lost ending start stop.rest

/-! ### Reading -/

namespace Reading

/-- The tokens between two places. -/
def between (start rest : Rest) : String := textOf (start.take (start.length - rest.length))

mutual

/-- Text with references in it; `follow` are the tokens that can stand after it.  Fuel
    bounds the number of tokens. -/
def text (ending : Ending) (follow : List Kind) :
    (fuel : Nat) → Rest → Except Stop ((List Template) × Rest)
  | 0, ts => lost ending ts ts
  | fuel + 1, ts => do
    let k ← next ending ts
    if k = .opening then
      let (x, r) ← interpolation ending (textKinds ++ follow) fuel ts
      let (xs, r) ← text ending follow fuel r
      return (x :: xs, r)
    else match ts with
      | t :: r =>
        if textKinds.contains k then
          let after := (r.head?.map Token.kind).filter textKinds.contains
          let (xs, rest) ← text ending follow fuel r
          return (ofText (plainText t after) :: xs, rest)
        else return ([], ts)
      | [] => return ([], [])

/-- A reference or the call of a function, from its opening on.  As long as both are
    possible a complaint is about everything from the opening on. -/
def interpolation (ending : Ending) (follow : List Kind) :
    (fuel : Nat) → Rest → Except Stop (Template × Rest)
  | 0, ts => lost ending ts ts
  | fuel + 1, start => do
    let ts := start.tail
    match ← next ending ts with
    | .name | .opening =>
      let (x, r) ← unsettled ending start (piece ending [.dot, .colon] fuel ts)
      nameOrKey ending start follow fuel [x] r
    | .dot | .bracketOpen | .keyPart => key ending fuel ts
    | _ => lost ending start ts

/-- What follows a name that may be that of a function. -/
def nameOrKey (ending : Ending) (start : Rest) (follow : List Kind) :
    (fuel : Nat) → List (String × Template) → Rest → Except Stop (Template × Rest)
  | 0, _, ts => lost ending start ts
  | fuel + 1, name, ts => do
    match ← next ending ts with
    | .colon =>
      let k ← enter ending (.braceClose :: sequenceKinds) ts.tail
      let (arguments, r) ←
        if k = .braceClose then pure ([], ts.tail)
        else sequence ending [.braceClose] fuel true ts.tail
      let r ← expect ending .braceClose follow r
      return (.call name arguments, r)
    | .closing => return (.reference name, ts.tail)
    | .bracketOpen =>
      let (xs, r) ← laterParts ending fuel ts
      return (.reference (name ++ xs), r)
    | .dot =>
      match ← next ending ts.tail with
      | .name | .opening =>
        let (x, r) ← unsettled ending start (piece ending [.dot, .colon] fuel ts.tail)
        nameOrKey ending start follow fuel (name ++ [(".", ofText ['.']), x]) r
      | .keyPart =>
        let (xs, r) ← laterParts ending fuel ts
        return (.reference (name ++ xs), r)
      | _ => lost ending start ts.tail
    | _ => lost ending start ts

/-- A key that cannot be the name of a function. -/
def key (ending : Ending) : (fuel : Nat) → Rest → Except Stop (Template × Rest)
  | 0, ts => lost ending ts ts
  | fuel + 1, ts => do
    let dots := ts.takeWhile fun t => t.kind == .dot
    let r := ts.drop dots.length
    let k ← again ending ([.dot, .bracketOpen] ++ pieceKinds) r
    let (xs, r) ←
      if k = .bracketOpen then bracketPart ending fuel r
      else (piece ending partEnds fuel r).map fun (x, r) => ([x], r)
    let (ys, r) ← partsAfterFirst ending fuel r
    return (.reference (dots.map (fun t => (textOf [t], ofText t.text)) ++ xs ++ ys), r)

/-- A piece of a key: a name, other characters, or a reference to the text of one. -/
def piece (ending : Ending) (follow : List Kind) :
    (fuel : Nat) → Rest → Except Stop ((String × Template) × Rest)
  | 0, ts => lost ending ts ts
  | fuel + 1, ts => do
    let k ← enter ending pieceKinds ts
    match ts with
    | t :: r =>
      if k = .opening then
        let (x, r) ← interpolation ending follow fuel ts
        return ((between ts r, x), r)
      else return ((textOf [t], ofText t.text), r)
    | [] => lost ending ts ts

/-- A part of a key in brackets. -/
def bracketPart (ending : Ending) :
    (fuel : Nat) → Rest → Except Stop ((List (String × Template)) × Rest)
  | 0, ts => lost ending ts ts
  | fuel + 1, ts => do
    let (x, r) ← piece ending [.bracketClose] fuel ts.tail
    let r ← expect ending .bracketClose partEnds r
    return ([("[", ofText ['[']), x, ("]", ofText [']'])], r)

/-- The parts of a key after its first, up to the brace that closes it. -/
def partsAfterFirst (ending : Ending) :
    (fuel : Nat) → Rest → Except Stop ((List (String × Template)) × Rest)
  | 0, ts => lost ending ts ts
  | fuel + 1, ts => do
    let _ ← enter ending partEnds ts
    laterParts ending fuel ts

/-- Parts of a key, of which the next one is known to fit, up to the brace that closes
    the key. -/
def laterParts (ending : Ending) :
    (fuel : Nat) → Rest → Except Stop ((List (String × Template)) × Rest)
  | 0, ts => lost ending ts ts
  | fuel + 1, ts => do
    let (xs, r) ←
      match ← next ending ts with
      | .dot =>
        let (x, r) ← piece ending partEnds fuel ts.tail
        pure ([(".", ofText ['.']), x], r)
      | .bracketOpen => bracketPart ending fuel ts
      | _ => return ([], ts.tail)
    let _ ← again ending partEnds r
    let (ys, r) ← laterParts ending fuel r
    return (xs ++ ys, r)

/-- Arguments with commas between them; where one is missing it is an empty text, also
    after the last comma.  `first` says whether no comma stands before the next one. -/
def sequence (ending : Ending) (follow : List Kind) :
    (fuel : Nat) → (first : Bool) → Rest → Except Stop ((List Template) × Rest)
  | 0, _, ts => lost ending ts ts
  | fuel + 1, first, ts => do
    let k ← next ending ts
    if elementKinds.contains k then
      let (x, r) ← element ending (.comma :: follow) fuel ts
      if (← next ending r) = .comma then
        let (xs, r) ← sequence ending follow fuel false r.tail
        return (x :: xs, r)
      else return ([x], r)
    else if k = .comma then
      let (xs, r) ← sequence ending follow fuel false ts.tail
      return (ofText [] :: xs, r)
    else return (if first then [] else [ofText []], ts)

/-- An argument: a quotation, a list, a dictionary, or characters without quotation
    marks. -/
def element (ending : Ending) (follow : List Kind) :
    (fuel : Nat) → Rest → Except Stop (Template × Rest)
  | 0, ts => lost ending ts ts
  | fuel + 1, ts => do
    match ← enter ending elementKinds ts with
    | .singleQuote | .doubleQuote =>
      let k ← enter ending (.quoteClose :: textKinds) ts.tail
      let (xs, r) ←
        if k = .quoteClose then pure ([], ts.tail)
        else text ending [.quoteClose] fuel ts.tail
      let r ← expect ending .quoteClose follow r
      return (.join xs, r)
    | .bracketOpen =>
      let k ← enter ending (.bracketClose :: sequenceKinds) ts.tail
      let (xs, r) ←
        if k = .bracketClose then pure ([], ts.tail)
        else sequence ending [.bracketClose] fuel true ts.tail
      let r ← expect ending .bracketClose follow r
      return (.list xs, r)
    | .braceOpen =>
      let k ← enter ending (.braceClose :: wordKinds) ts.tail
      if k = .braceClose then return (.dict [], ts.tail.tail)
      else
        let (x, r) ← entry ending fuel ts.tail
        let _ ← enter ending [.comma, .braceClose] r
        let (xs, r) ← laterEntries ending fuel r
        return (.dict (x :: xs), r)
    | _ =>
      let (x, r) ← bare ending follow fuel ts
      return (x, r)

/-- The characters of an argument without quotation marks. -/
def bare (ending : Ending) (follow : List Kind) :
    (fuel : Nat) → Rest → Except Stop (Template × Rest)
  | 0, ts => lost ending ts ts
  | fuel + 1, ts => do
    let words := ts.takeWhile fun t => bareKinds.contains t.kind && t.kind != .opening
    let r := ts.drop words.length
    if (← next ending r) = .opening then
      let (x, rest) ← interpolation ending (bareKinds ++ follow) fuel r
      let more := bareKinds.contains (← next ending rest)
      if words.isEmpty && !more then return (x, rest)
      let front := ofText (words.flatMap fun t => plainText t none)
      if more then
        let (y, rest) ← bareTail ending follow fuel rest
        return (.join ([front, x] ++ y), rest)
      else return (.join [front, x], rest)
    else return (ofTokens words, r)

/-- The pieces of an argument without quotation marks after a reference in it. -/
def bareTail (ending : Ending) (follow : List Kind) :
    (fuel : Nat) → Rest → Except Stop ((List Template) × Rest)
  | 0, ts => lost ending ts ts
  | fuel + 1, ts => do
    let k ← next ending ts
    if k = .opening then
      let (x, r) ← interpolation ending (bareKinds ++ follow) fuel ts
      let (xs, r) ← bareTail ending follow fuel r
      return (x :: xs, r)
    else match ts with
      | t :: r =>
        if bareKinds.contains k then
          let (xs, r) ← bareTail ending follow fuel r
          return (ofText (plainText t none) :: xs, r)
        else return ([], ts)
      | [] => return ([], [])

/-- A key and a value of a dictionary. -/
def entry (ending : Ending) : (fuel : Nat) → Rest → Except Stop ((Template × Template) × Rest)
  | 0, ts => lost ending ts ts
  | fuel + 1, ts => do
    let _ ← enter ending wordKinds ts
    let words := ts.takeWhile fun t => wordKinds.contains t.kind
    let r ← expect ending .colon elementKinds (ts.drop words.length)
    let (x, r) ← element ending [.comma, .braceClose] fuel r
    return ((ofTokens words, x), r)

/-- The entries of a dictionary after its first, up to the brace that closes it. -/
def laterEntries (ending : Ending) :
    (fuel : Nat) → Rest → Except Stop ((List (Template × Template)) × Rest)
  | 0, ts => lost ending ts ts
  | fuel + 1, ts => do
    if (← next ending ts) = .comma then
      let (x, r) ← entry ending fuel ts.tail
      let _ ← again ending [.comma, .braceClose] r
      let (xs, r) ← laterEntries ending fuel r
      return (x :: xs, r)
    else return ([], ts.tail)

end

end Reading

/-! ### Whole texts -/

/-- The text opens a reference somewhere. -/
def isOpened : List Char → Bool
  | '$' :: '\x7b' :: _ => true
  | _ :: r => isOpened r
  | [] => false

/-- The fuel for some tokens: a few calls for each of them. -/
def fuelFor (ts : List Token) : Nat := 6 * ts.length + 12

/-- Read a template: a text that is a single reference stands for its value. -/
def read (s : String) : Except Malformed Template :=
  let (ts, ending) := tokens .text s.toList
  let whole : Except Stop Template := do
    let (xs, r) ← Reading.text ending [.ending] (fuelFor ts) ts
    let _ ← expect ending .ending [] r
    return ofParts xs
  whole.mapError Stop.why

/-- Read a text as if it were an argument of a function. -/
def readArgument (s : String) : Except Malformed Template :=
  let (ts, ending) := tokens .arguments s.toList
  let whole : Except Stop Template := do
    let (x, r) ← Reading.element ending [.ending] (fuelFor ts) ts
    let _ ← expect ending .ending [] r
    return x
  whole.mapError Stop.why

end Chip8.Settings.Template
