/-
  Chip8/Yaml/Merging.lean
  =======================
  **Mappings that are merged** — a mapping may name others whose pairs it takes
  over, and what has to hold of the nodes of a document before they have values.

  Pairs that are taken over stand before the own pairs of a mapping, without those
  whose key it has itself.  What is wrong inside of a collection shows only after
  everything beside the collection: `Node.check` looks at a document level by level.
-/
import Chip8.Yaml.Node
import Chip8.Yaml.Scalar
import Std.Data.HashMap

namespace Chip8.Yaml

namespace Node

mutual

/-- The number of collections around the innermost node, and one more. -/
def depth : Node → Nat
  | sequence _ _ items => depths items + 1
  | mapping _ _ pairs => pairDepths pairs + 1
  | _ => 1

/-- The depth of the deepest of some nodes. -/
def depths : List Node → Nat
  | [] => 0
  | n :: r => max (depth n) (depths r)

/-- The depth of the deepest of some keys and values. -/
def pairDepths : List (Node × Node) → Nat
  | [] => 0
  | (k, v) :: r => max (max (depth k) (depth v)) (pairDepths r)

end

/-- The tag of a node. -/
def tag : Node → Tag
  | scalar t _ _ | sequence t _ _ | mapping t _ _ => t
  | enclosing _ => .mapping

/-- The name of the form of a node. -/
def formWord : Node → String
  | scalar .. => "scalar"
  | sequence .. => "sequence"
  | mapping .. | enclosing _ => "mapping"

/-- A key that is an ordinary text. -/
def textKey? : Node → Option String
  | scalar .str text _ => some text
  | _ => none

/-- A key that marks a default value is an ordinary text elsewhere. -/
def plainKey : Node → Node
  | scalar .default text place => scalar .str text place
  | n => n

/-! ### Merging -/

/-- The pairs of a mapping, given those that it takes over. -/
def joinPairs (taken own : List (Node × Node)) : List (Node × Node) :=
  let own := own.filter fun pair => pair.1.tag ≠ .merge
  let names := own.filterMap fun pair => pair.1.textKey?
  let taken := taken.filter fun pair => !(pair.1.textKey?.any names.contains)
  taken ++ own.map fun (k, v) => (plainKey k, v)

/-- The pairs of a mapping with those that it takes over: of several mappings that it
    names together, those of the last one come first.  Fuel bounds how often a
    mapping that is named takes over others. -/
def flatten : (fuel : Nat) → Node → List (Node × Node)
  | 0, _ => []
  | fuel + 1, mapping _ _ pairs =>
    let named : Node → List (Node × Node)
      | sequence _ _ items => (items.reverse.map (flatten fuel)).flatten
      | n => flatten fuel n
    joinPairs ((pairs.filter fun pair => pair.1.tag = .merge).map fun pair => named pair.2).flatten
      pairs
  | _ + 1, _ => []

/-! ### Parts of nodes -/

/-- A node of one form is wanted, and this is one of another. -/
def unexpected {α : Type} (n : Node) (wanted : String) : Except Error α :=
  .error (.noValue {
    problem := s!"expected a {wanted} node, but found {n.formWord}", place := n.place })

/-- The text of a scalar; a mapping with a default value has that one's text.  Fuel
    bounds how often a default value has one. -/
def text : (fuel : Nat) → Node → Except Error String
  | 0, n => n.unexpected "scalar"
  | _ + 1, scalar _ text _ => .ok text
  | fuel + 1, mapping tag origin pairs =>
    match pairs.find? fun pair => pair.1.tag == .default with
    | some (_, v) => v.text fuel
    | none => (mapping tag origin pairs).unexpected "scalar"
  | _ + 1, n => n.unexpected "scalar"

/-- A node with a tag that asks for the text of the node itself: only a scalar has one,
    whatever the default value of a mapping is. -/
def asksForOwnText : Node → Bool
  | mapping .timestamp _ _ => true
  | _ => false

/-- The value of a node that is no collection. -/
def scalarValue (n : Node) : Except Error Scalar := do
  let isOwn := match n.tag with
    | .unknown _ | .merge | .default => true
    | _ => false
  if isOwn then Scalar.ofText n.place n.tag ""
  else
    let text ← n.text n.depth
    if n.asksForOwnText then
      throw (.wrongShape "expected string or bytes-like object, got 'list'")
    Scalar.ofText n.place n.tag text

/-- What is being done with a node of a tag. -/
def activity (tag : Tag) : Activity :=
  match tag with
  | .pairs true => .constructing "an ordered map"
  | .pairs false => .constructing "pairs"
  | _ => .constructing "a mapping"

/-- Something is wrong with a part of a node. -/
def wrongPart {α : Type} (n part : Node) (problem : String) : Except Error α :=
  .error (.noValue {
    activity := some (activity n.tag), start := some n.place, problem, place := part.place })

/-- The items of a node that has to be a sequence. -/
def items : Node → Except Error (List Node)
  | sequence _ _ items => .ok items
  | n =>
    match n.tag with
    | .pairs _ => n.wrongPart n s!"expected a sequence, but found {n.formWord}"
    | _ => n.unexpected "sequence"

/-- The key and the value of an item of a node that has to be a mapping with one key. -/
def onlyPair (whole : Node) : Node → Except Error (Node × Node)
  | mapping _ _ [pair] => .ok pair
  | mapping tag origin pairs =>
    whole.wrongPart (mapping tag origin pairs)
      s!"expected a single mapping item, but found {pairs.length} items"
  | n => whole.wrongPart n s!"expected a mapping of length 1, but found {n.formWord}"

/-! ### Checking -/

/-- No key of a node that is a text is given twice. -/
def checkKeys (whole : Node) (seen : List String) : List (Node × Node) → Except Error Unit
  | [] => .ok ()
  | (k, _) :: r =>
    if k.tag ≠ .str then checkKeys whole seen r
    else match k with
      | scalar _ text _ =>
        if seen.contains text then whole.wrongPart k s!"found duplicate key {text}"
        else checkKeys whole (text :: seen) r
      | _ => .error (.wrongShape "unhashable type: 'list'")

/-- What is known of the collections of a document: the pairs of those that have taken
    over others, and which ones were looked into. -/
structure Survey where
  merged : Std.HashMap Nat (List (Node × Node)) := {}
  entered : Std.HashMap Nat Unit := {}

/-- A step of checking a document. -/
abbrev Checking := StateT Survey (Except Error)

/-- The pairs of a mapping with those that it takes over.  A mapping that has taken over
    others before is checked with their pairs.  Fuel as for `flatten`. -/
def checkPairs : (fuel : Nat) → Node → Checking (List (Node × Node))
  | 0, n => n.unexpected "mapping"
  | fuel + 1, mapping tag origin pairs => do
    let whole := mapping tag origin pairs
    let pairs := (← get).merged.getD origin.number pairs
    checkKeys whole [] pairs
    let named : Node → Checking (List (Node × Node))
      | sequence _ _ items => do
        return (← items.mapM fun n => do
          if n.formWord ≠ "mapping" then
            whole.wrongPart n s!"expected a mapping for merging, but found {n.formWord}"
          checkPairs fuel n).reverse.flatten
      | n => do
        if n.formWord ≠ "mapping" then
          let form := n.formWord
          whole.wrongPart n
            s!"expected a mapping or list of mappings for merging, but found {form}"
        checkPairs fuel n
    let taken ← (pairs.filter fun pair => pair.1.tag = .merge).mapM fun pair => named pair.2
    let joined := joinPairs taken.flatten pairs
    modify fun c => { c with merged := c.merged.insert origin.number joined }
    return joined
  | _ + 1, n => n.unexpected "mapping"

/-- A node of a tag of collections, which is to be looked into later; any other node has
    a value of its own. -/
def delayed (n : Node) : Except Error (List Node) :=
  match n.tag with
  | .sequence | .mapping | .set | .pairs _ => .ok [n]
  | _ => n.scalarValue.map fun _ => []

/-- The collections in a key of a node, which must not be one, and a value. -/
def delayedPair (whole : Option Node) (pair : Node × Node) : Except Error (List Node) := do
  let k ← delayed pair.1
  match whole, k with
  | some n, _ :: _ => n.wrongPart pair.1 "found unhashable key"
  | _, _ => pure ()
  return k ++ (← delayed pair.2)

/-- Look into a node of a tag of collections: what is in it that is to be looked into. -/
def inside (n : Node) : Checking (List Node) :=
  match n.tag with
  | .sequence => do return (← (← n.items).mapM fun i => delayed i).flatten
  | .pairs _ => do
    return (← (← n.items).mapM fun i => do delayedPair none (← n.onlyPair i)).flatten
  | _ => do
    return (← (← checkPairs n.depth n).mapM fun pair => delayedPair (some n) pair).flatten

/-- The collections of a level: copies of one collection are looked into once. -/
def enter (n : Node) : Checking (List Node) := do
  match n with
  | sequence _ origin _ | mapping _ origin _ =>
    if (← get).entered.contains origin.number then return []
    modify fun c => { c with entered := c.entered.insert origin.number () }
    inside n
  | _ => inside n

/-- Look into collections, level by level.  Fuel bounds the levels. -/
def checkLevels : (fuel : Nat) → List Node → Checking Unit
  | 0, _ => pure ()
  | _ + 1, [] => pure ()
  | fuel + 1, level => do
    let below ← level.mapM enter
    checkLevels fuel below.flatten

/-- All of a document has values. -/
def check (n : Node) : Except Error Unit := do
  let level ← delayed n
  let _ ← (checkLevels (n.depth + 1) level).run {}

end Node

end Chip8.Yaml
