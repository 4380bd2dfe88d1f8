/-
  Chip8/Yaml/Node.lean
  ====================
  **The structure of a YAML document** — scalars, sequences and mappings, each
  with its tag, read token by token from a text that is split on the way.

  An alias stands for the node of its anchor; a node that holds itself cannot be
  written down as a tree, so such an alias is kept as `enclosing`.  Collections are
  numbered, so that the copies of one can be told from equal ones.
-/
import Chip8.Yaml.Splitting
import Chip8.Yaml.Tag

namespace Chip8.Yaml

/-- Where a collection comes from: its number among all of a document, and where it
    starts. -/
structure Origin where
  number : Nat
  place : Place
  deriving DecidableEq, Repr

/-- A node of a document. -/
inductive Node where
  | scalar (tag : Tag) (text : String) (place : Place)
  | sequence (tag : Tag) (origin : Origin) (items : List Node)
  | mapping (tag : Tag) (origin : Origin) (pairs : List (Node × Node))
  /-- The alias of a node around it, and where that one starts. -/
  | enclosing (place : Place)
  deriving Repr

namespace Node

/-- A scalar that is not written at all. -/
def empty (place : Place) : Node := scalar .null "" place

/-- Where a node starts. -/
def place : Node → Place
  | scalar _ _ place | enclosing place => place
  | sequence _ origin _ | mapping _ origin _ => origin.place

mutual

/-- What is left of a budget after the nodes of a tree, copies included; `none` if it
    does not suffice. -/
def spend : (budget : Nat) → Node → Option Nat
  | 0, _ => none
  | budget + 1, sequence _ _ items => spendAll budget items
  | budget + 1, mapping _ _ pairs => spendPairs budget pairs
  | budget + 1, _ => some budget

/-- What is left of a budget after some nodes. -/
def spendAll : (budget : Nat) → List Node → Option Nat
  | budget, [] => some budget
  | budget, n :: r => (spend budget n).bind fun budget => spendAll budget r

/-- What is left of a budget after some keys and values. -/
def spendPairs : (budget : Nat) → List (Node × Node) → Option Nat
  | budget, [] => some budget
  | budget, (k, v) :: r =>
    (spend budget k).bind fun budget => (spend budget v).bind fun budget => spendPairs budget r

end

mutual

/-- Where the first node starts that holds itself somewhere. -/
def cycle? : Node → Option Place
  | enclosing place => some place
  | sequence _ _ items => cycleIn? items
  | mapping _ _ pairs => cycleAmong? pairs
  | scalar .. => none

/-- Where the first of some nodes starts that holds itself. -/
def cycleIn? : List Node → Option Place
  | [] => none
  | n :: r => (cycle? n).or (cycleIn? r)

/-- Where the first of some keys and values starts that holds itself. -/
def cycleAmong? : List (Node × Node) → Option Place
  | [] => none
  | (k, v) :: r => ((cycle? k).or (cycle? v)).or (cycleAmong? r)

end

end Node

/-- A document in the middle of being read. -/
structure Cursor where
  splitting : Splitting
  /-- What the handles of tags stand for. -/
  handles : List (String × String) := []
  /-- The anchors seen so far, with their nodes. -/
  anchors : List (String × Node) := []
  /-- The number of collections so far. -/
  collections : Nat := 0
  /-- How many nodes aliases may still stand for, if that is limited. -/
  copies : Option Nat
  /-- Aliases stand for more nodes than that. -/
  overdrawn : Bool := false
  deriving Repr

/-- A step of reading a document. -/
abbrev Reading := StateT Cursor (Except Error)

namespace Reading

/-- The next token, and where it starts. -/
def peekAt : Reading (Token × Place) := do
  let c ← get
  let (t, s) ← c.splitting.peek
  set { c with splitting := s }
  return t

/-- The next token. -/
def peek : Reading Token := return (← peekAt).1

/-- Where the next token starts. -/
def here : Reading Place := return (← peekAt).2

/-- Move over the next token. -/
def skip : Reading Unit := modify fun c => { c with splitting := c.splitting.take }

/-- Move over the next token and look at the one after it. -/
def next : Reading Token := do
  skip
  peek

/-- The next token does not fit. -/
def fail {α : Type} (problem : String) : Reading α := do
  throw (.badStructure { problem, place := ← here })

/-- The next token does not fit into what was being read since a place. -/
def failIn {α : Type} (what : String) (start : Place) (problem : String) : Reading α := do
  throw (.badStructure {
    activity := some (.parsing what), start := some start, problem, place := ← here })

/-- A text is nested more deeply than its length allows. -/
def endless {α : Type} : Reading α := fail "did not find expected node content"

/-! ### Properties -/

/-- What stands before a node. -/
structure Properties where
  anchor : Option String := none
  /-- Handle and rest of the tag, and where it starts. -/
  tag : Option (String × String × Place) := none

/-- Anchor and tag before a node, in either order, and the token after them. -/
def properties : Reading (Properties × Token) := do
  match ← peekAt with
  | (.anchor a, _) =>
    skip
    match ← peekAt with
    | (.tag handle name, place) => return (⟨some a, some (handle, name, place)⟩, ← next)
    | (t, _) => return (⟨some a, none⟩, t)
  | (.tag handle name, place) =>
    match ← next with
    | .anchor a => return (⟨some a, some (handle, name, place)⟩, ← next)
    | t => return (⟨none, some (handle, name, place)⟩, t)
  | (t, _) => return ({}, t)

/-- The handles that need no directive. -/
def standardHandles : List (String × String) := [("!", "!"), ("!!", standardTags)]

/-- The full name of a tag, at a place, of a node that starts at a place. -/
def fullName (start : Place) : String × String × Place → Reading String
  | (handle, name, place) => do
    if handle = "" then return name
    match (← get).handles.lookup handle with
    | some expansion => return expansion ++ name
    | none =>
      throw (.badStructure {
        activity := some (.parsing "a node"), start := some start
        problem := "found undefined tag handle", place })

/-- The tag that says nothing about the kind of a node. -/
def plainTag : String := "!"

/-- The tag of a collection. -/
def collectionTag (standard : Tag) (name : Option String) : Tag :=
  match name with
  | none => standard
  | some name => if name = plainTag then standard else Tag.ofName name

/-- The tag of a scalar. -/
def scalarTag (style : Style) (text : String) (name : Option String) : Tag :=
  match name with
  | none => if style = .plain then Tag.ofPlain text else .str
  | some name => if name = plainTag then Tag.ofPlain text else Tag.ofName name

/-- The tag of a scalar that is not written. -/
def emptyTag (name : Option String) : Tag :=
  match name with
  | none => .null
  | some name => if name = plainTag then .str else Tag.ofName name

/-- Give a node its anchor, if it has one: an anchor is given once. -/
def define (anchor : Option String) (n : Node) : Reading Unit :=
  match anchor with
  | none => pure ()
  | some a => do
    let c ← get
    match c.anchors.lookup a with
    | some first =>
      throw (.badReference {
        activity := some (.other "found duplicate anchor; first occurrence")
        start := some first.place, problem := "second occurrence", place := n.place })
    | none => set { c with anchors := (a, n) :: c.anchors }

/-- Count one more collection; its number is that of those before it. -/
def count (place : Place) : Reading Origin := do
  let c ← get
  set { c with collections := c.collections + 1 }
  return ⟨c.collections, place⟩

/-- The node of an alias at a place. -/
def resolve (name : String) (place : Place) : Reading Node := do
  let c ← get
  match c.anchors.lookup name with
  | none => throw (.badReference { problem := "found undefined alias", place })
  | some n =>
    match c.copies with
    | none => pure ()
    | some budget =>
      match n.spend budget with
      | some rest => set { c with copies := some rest }
      | none => set { c with overdrawn := true }
    return n

/-- Give an anchor the node that it was promised. -/
def redefine (anchor : Option String) (n : Node) : Reading Unit :=
  match anchor with
  | none => pure ()
  | some a => modify fun c => { c with anchors := (a, n) :: c.anchors }

/-- A scalar with its anchor. -/
def leaf (anchor : Option String) (n : Node) : Reading Node := do
  define anchor n
  return n

/-- The place after a mark of one character. -/
def afterMark : Place → Place
  | .before left => .before (left - 1)
  | .ending => .ending

/-! ### Nodes -/

mutual

/-- A node: in a block, block collections may start here, and in a mapping also
    a sequence without indentation of its own.  Fuel bounds the nesting. -/
def node (block indentless : Bool) : (fuel : Nat) → Reading Node
  | 0 => endless
  | fuel + 1 => do
    let (first, start) ← peekAt
    if let .alias a := first then
      skip
      return ← resolve a start
    let (p, t) ← properties
    let name ← p.tag.mapM (fullName start)
    let sequence (items : Place → Reading (List Node)) : Reading Node := do
      define p.anchor (.enclosing start)
      let origin ← count start
      let n := Node.sequence (collectionTag .sequence name) origin (← items (← here))
      redefine p.anchor n
      return n
    let mapping (pairs : Place → Reading (List (Node × Node))) : Reading Node := do
      define p.anchor (.enclosing start)
      let origin ← count start
      let n := Node.mapping (collectionTag .mapping name) origin (← pairs (← here))
      redefine p.anchor n
      return n
    match t, block, indentless with
    | .blockEntry, _, true => sequence fun _ => flatEntries fuel
    | .scalar style text, _, _ =>
      skip
      leaf p.anchor (.scalar (scalarTag style text name) text start)
    | .flowSequenceStart, _, _ => sequence fun place => skip *> items place true fuel
    | .flowMappingStart, _, _ => mapping fun place => skip *> flowPairs place true fuel
    | .blockSequenceStart, true, _ => sequence fun place => skip *> entries place fuel
    | .blockMappingStart, true, _ => mapping fun place => skip *> blockPairs place fuel
    | _, _, _ =>
      if p.anchor.isSome || name.isSome then leaf p.anchor (.scalar (emptyTag name) "" start)
      else
        failIn (if block then "a block node" else "a flow node") start
          "did not find expected node content"

/-- A node, unless one of some tokens shows that it is missing, from a place on. -/
def nodeUnless (block indentless : Bool) (stops : List Token) (place : Place) :
    (fuel : Nat) → Reading Node
  | 0 => endless
  | fuel + 1 => do
    if stops.contains (← peek) then return .empty place
    node block indentless fuel

/-- The entries of a block sequence that starts at a place. -/
def entries (start : Place) : (fuel : Nat) → Reading (List Node)
  | 0 => endless
  | fuel + 1 => do
    match ← peekAt with
    | (.blockEntry, place) =>
      skip
      let n ← nodeUnless true false [.blockEntry, .blockEnd] (afterMark place) fuel
      return n :: (← entries start fuel)
    | (.blockEnd, _) =>
      skip
      return []
    | _ => failIn "a block collection" start "did not find expected '-' indicator"

/-- The entries of a block sequence that has no indentation of its own. -/
def flatEntries : (fuel : Nat) → Reading (List Node)
  | 0 => endless
  | fuel + 1 => do
    match ← peekAt with
    | (.blockEntry, place) =>
      skip
      let stops : List Token := [.blockEntry, .key, .value, .blockEnd]
      let n ← nodeUnless true false stops (afterMark place) fuel
      return n :: (← flatEntries fuel)
    | _ => return []

/-- The keys and values of a block mapping that starts at a place; either may be
    missing. -/
def blockPairs (start : Place) : (fuel : Nat) → Reading (List (Node × Node))
  | 0 => endless
  | fuel + 1 => do
    let stops : List Token := [.key, .value, .blockEnd]
    match ← peekAt with
    | (.key, place) =>
      skip
      let k ← nodeUnless true true stops (afterMark place) fuel
      let v ←
        match ← peekAt with
        | (.value, place) =>
          skip
          nodeUnless true true stops (afterMark place) fuel
        | (_, place) => pure (.empty place)
      return (k, v) :: (← blockPairs start fuel)
    | (.blockEnd, _) =>
      skip
      return []
    | _ => failIn "a block mapping" start "did not find expected key"

/-- The items of a sequence in brackets that starts at a place; a key makes an item a
    mapping of its own. -/
def items (start : Place) (first : Bool) : (fuel : Nat) → Reading (List Node)
  | 0 => endless
  | fuel + 1 => do
    let t ← peek
    if t = .flowSequenceEnd then
      skip
      return []
    let t ←
      if first then pure t
      else if t = .flowEntry then next
      else failIn "a flow sequence" start "did not find expected ',' or ']'"
    match t with
    | .key =>
      let origin ← count (← here)
      skip
      let pair ← singlePair fuel
      return .mapping .mapping origin [pair] :: (← items start false fuel)
    | .flowSequenceEnd =>
      skip
      return []
    | _ =>
      let n ← node false false fuel
      return n :: (← items start false fuel)

/-- The key and the value of an item of a sequence.  A token that shows that the key
    is missing is passed over, so that a value cannot follow it. -/
def singlePair : (fuel : Nat) → Reading (Node × Node)
  | 0 => endless
  | fuel + 1 => do
    let stops : List Token := [.flowEntry, .flowSequenceEnd]
    let k ←
      if (Token.value :: stops).contains (← peek) then
        let place ← here
        skip
        pure (.empty (afterMark place))
      else node false false fuel
    let v ←
      match ← peekAt with
      | (.value, _) =>
        skip
        nodeUnless false false stops (← here) fuel
      | (_, place) => pure (.empty place)
    let _ ← peek
    return (k, v)

/-- The keys and values of a mapping in braces that starts at a place; a node alone is
    a key. -/
def flowPairs (start : Place) (first : Bool) : (fuel : Nat) → Reading (List (Node × Node))
  | 0 => endless
  | fuel + 1 => do
    let stops : List Token := [.flowEntry, .flowMappingEnd]
    let t ← peek
    if t = .flowMappingEnd then
      skip
      return []
    let t ←
      if first then pure t
      else if t = .flowEntry then next
      else failIn "a flow mapping" start "did not find expected ',' or '\x7d'"
    match t with
    | .key =>
      skip
      let k ← nodeUnless false false (.value :: stops) (← here) fuel
      let v ←
        match ← peekAt with
        | (.value, _) =>
          skip
          nodeUnless false false stops (← here) fuel
        | (_, place) => pure (.empty place)
      return (k, v) :: (← flowPairs start false fuel)
    | .flowMappingEnd =>
      skip
      return []
    | _ =>
      let k ← node false false fuel
      return (k, .empty (← here)) :: (← flowPairs start false fuel)

end

/-! ### Documents -/

/-- The directives before a document: one version, which has to be known, and
    handles, each of which stands for one thing.  Fuel bounds their number. -/
def directives (versioned : Bool) : (fuel : Nat) → Reading Unit
  | 0 => endless
  | fuel + 1 => do
    match ← peek with
    | .version major minor =>
      if versioned then fail "found duplicate %YAML directive"
      if major != 1 || !(minor == 1 || minor == 2) then fail "found incompatible YAML document"
      skip
      directives true fuel
    | .handle name expansion =>
      let c ← get
      if (c.handles.lookup name).isSome then fail "found duplicate %TAG directive"
      set { c with handles := (name, expansion) :: c.handles }
      skip
      directives versioned fuel
    | _ => modify fun c => { c with handles := c.handles ++ standardHandles }

/-- Pass over the ends of documents. -/
def documentEnds : (fuel : Nat) → Reading Token
  | 0 => endless
  | fuel + 1 => do
    match ← peek with
    | .documentEnd =>
      skip
      documentEnds fuel
    | t => return t

/-- A document has to be announced. -/
def unannounced {α : Type} : Reading α := fail "did not find expected <document start>"

/-- The end of the text after a document that starts at a place: anything else would be a
    second document, which has to be announced. -/
def finish (first : Place) (fuel : Nat) : Reading Unit := do
  match ← documentEnds fuel with
  | .streamEnd => return ()
  | _ =>
    let start ← here
    modify fun c => { c with handles := [] }
    directives false fuel
    match ← peek with
    | .documentStart =>
      throw (.badReference {
        activity := some (.other "expected a single document in the stream"), start := some first
        problem := "but found another document", place := start })
    | _ => unannounced

/-- The content of a document that was announced; it may be missing. -/
def content (fuel : Nat) : Reading Node := do
  match ← peek with
  | .version .. | .handle .. | .documentStart | .documentEnd | .streamEnd =>
    return .empty (← here)
  | _ => node true false fuel

/-- The only document of a text; a text without one is null. -/
def document (fuel : Nat) : Reading Node := do
  match ← peek with
  | .streamEnd => return .empty (← here)
  | .version .. | .handle .. | .documentStart =>
    directives false fuel
    match ← peek with
    | .documentStart => skip
    | _ => unannounced
    let n ← content fuel
    finish n.place fuel
    return n
  | _ =>
    directives false fuel
    let n ← node true false fuel
    finish n.place fuel
    return n

end Reading

/-- A mark at the very start of a text that says how the text is encoded. -/
def byteOrderMark : Char := '\uFEFF'

/-- A text without the mark at its start. -/
def withoutOrderMark (s : List Char) : List Char :=
  if s.head? = some byteOrderMark then s.tail else s

/-- The number of octets of some characters. -/
def octets (s : List Char) : Nat := s.foldl (fun n c => n + c.utf8Size) 0

/-- All characters of a text are such that it may hold them. -/
def checkCharacters (s : List Char) : Except Error Unit :=
  match s.dropWhile isReadable with
  | [] => .ok ()
  | c :: r => .error (.badCharacter c (octets s - octets (c :: r)))

/-- The document of a text: no node holds itself, and aliases do not stand for more nodes
    than there may be copies. -/
def Node.ofText (copies : Option Nat) (s : List Char) : Except Error Node := do
  checkCharacters s
  let s := withoutOrderMark s
  let start : Cursor := { splitting := Splitting.start s, copies := copies }
  let (n, c) ← (Reading.document (8 * s.length + 16)).run start
  if c.overdrawn then
    throw (.noValue { problem := "found too many copies of nodes", place := n.place })
  match n.cycle? with
  | some place => throw (.noValue { problem := "found unconstructable recursive node", place })
  | none => return n

end Chip8.Yaml
