/-
  Chip8/Yaml/Value.lean
  =====================
  **Values** — what a YAML text stands for: a scalar, a list, or a dictionary
  whose keys are scalars.

  Of equal keys, the first one keeps its place and the last one gives the value; a
  list of pairs has pairs as its items.
-/
import Chip8.Yaml.Merging

namespace Chip8.Yaml

/-- The value of a document. -/
inductive Value where
  | scalar (s : Scalar)
  | list (items : List Value)
  /-- A list of fixed items. -/
  | tuple (items : List Value)
  | dict (entries : List (Scalar × Value))
  /-- A collection without order; its members are never asked for. -/
  | set

/-- The entries of a dictionary. -/
abbrev Entries := List (Scalar × Value)

namespace Entries

/-- Give a key a value; a key that is there keeps its place. -/
def put (key : Scalar) (v : Value) : Entries → Entries
  | [] => [(key, v)]
  | (k, w) :: r => if k.sameKey key then (k, v) :: r else (k, w) :: put key v r

/-- The value of a key. -/
def get? (es : Entries) (key : Scalar) : Option Value :=
  (es.find? fun e => e.1.sameKey key).map Prod.snd

/-- A key that is the same as itself has the value that it was given last. -/
theorem get?_put {key : Scalar} (h : key.sameKey key = true) (v : Value) (es : Entries) :
    get? (put key v es) key = some v := by
  induction es with
  | nil => simp [put, get?, h]
  | cons e r ih =>
    obtain ⟨k, w⟩ := e
    unfold get? at ih
    cases hk : k.sameKey key with
    | true => simp [put, get?, hk]
    | false => simpa [put, get?, hk] using ih

end Entries

namespace Value

/-- The value of a node as a key: collections are none. -/
def asKey (n : Node) : Value → Except Error Scalar
  | scalar s => .ok s
  | _ => n.wrongPart n "found unhashable key"

mutual

/-- The value of a node.  Fuel bounds its depth. -/
def ofNode : (fuel : Nat) → Node → Except Error Value
  | 0, n => n.unexpected "scalar"
  | fuel + 1, n =>
    match n.tag with
    | .sequence => do
      let items ← n.items
      return .list (← items.mapM (ofNode fuel))
    | .mapping => return .dict (← entriesOf fuel (n.flatten n.depth))
    | .set => return .set
    | .pairs _ => do
      let items ← n.items
      return .list (← items.mapM (pairOf fuel n))
    | _ => n.scalarValue.map scalar

/-- The entries that keys and values give. -/
def entriesOf : (fuel : Nat) → List (Node × Node) → Except Error Entries
  | 0, _ => .ok []
  | fuel + 1, pairs =>
    pairs.foldlM (fun es (k, v) => do
      let key ← ofNode fuel k >>= asKey k
      return Entries.put key (← ofNode fuel v) es) []

/-- The key and the value of a mapping with one key, which is an item of a node. -/
def pairOf : (fuel : Nat) → (whole : Node) → Node → Except Error Value
  | 0, _, n => n.unexpected "mapping"
  | fuel + 1, whole, n => do
    let (k, v) ← whole.onlyPair n
    return .tuple [← ofNode fuel k, ← ofNode fuel v]

end

/-- The value of a text with any structure, whose aliases stand for nodes that `copies`
    limits. -/
def ofDocument (copies : Option Nat) (s : List Char) : Except Error Value := do
  let n ← Node.ofText copies s
  n.check
  ofNode (3 * n.depth + 3) n

/-- The value of a text.  A single word needs no structure: it is a plain scalar. -/
def read (copies : Option Nat) (text : String) : Except Error Value :=
  if Scalar.isPlainWord text.toList then (Scalar.ofPlain text).map scalar
  else ofDocument copies text.toList

end Value

end Chip8.Yaml
