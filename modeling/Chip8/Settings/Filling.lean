/-
  Chip8/Settings/Filling.lean
  ===========================
  **Filling templates** — the value that a template stands for among other values.

  A reference leads from the outermost values, or after points from those around the
  template, to a value, which may come from a template itself; a template that
  leads back to itself has no value.  The fields of settings are of a kind, to
  which the value of a template in them is converted.
-/
import Chip8.Settings.Function

namespace Chip8.Settings

open Chip8.Yaml (Entries Scalar Value)

/-- The values that templates refer to. -/
structure Scope where
  root : Value
  /-- The outermost values are the fields of settings. -/
  typed : Bool

namespace Scope

/-- The kind of the value at a path. -/
def kindAt? (sc : Scope) : Path → Option Kind
  | [.str name] => if sc.typed then (Field.ofName? name).map Field.kind else none
  | _ => none

/-- The site of the outermost values. -/
def site (sc : Scope) : Site := [⟨if sc.typed then .settings else .dict, none⟩]

/-- The site of the collection at a path. -/
def siteAt (sc : Scope) (path : Path) : Site := sc.site.along sc.root path

/-- The note about the key at the end of a path, and a value there. -/
def note (sc : Scope) (path : Path) (held : Bool) (v : Value) : Note :=
  (sc.siteAt path.dropLast).note path.getLast? held v

end Scope

/-- A text that is to be filled in. -/
def template? : Value → Option String
  | .scalar (.str s) => if Template.isOpened s.toList then some s else none
  | _ => none

/-- Two paths are the same. -/
def samePath (p q : Path) : Bool := leadsTo p q && leadsTo q p

/-- Convert what a template stands for to the kind of the field that holds it. -/
def convert (k : Kind) (template : String) (note : Note) (f : Found) : Except Fault Found :=
  match k.ofValue? f.value with
  | some x => .ok { value := .scalar (k.toScalar x), held := true }
  | none =>
    if k.overlong f.value then .error .overlong
    else
      let cause : Fault := match f.value with
        | .scalar .null => .missing (.field k)
        | _ => .unsuitable (.field k)
      .error ((Fault.unsuitableResult template cause).place note)

/-- The key that a name stands for in a collection, and what is there. -/
def step (v : Value) (name : String) : Except Fault (Option (Scalar × Value)) :=
  match v with
  | .dict es =>
    let key := entryKey es name
    .ok ((Entries.get? es key).map fun w => (key, w))
  | v =>
    match items? v with
    | none => .ok none
    | some items =>
      match Text.readInt? name.toList with
      | none => .error (.notIndex name)
      | some i =>
        .ok ((itemIndex? items.length i).bind fun n => items[n]?.map fun w => (.int n, w))

/-- A search that leads nowhere, as opposed to one that goes wrong. -/
def orNowhere (x : Except Fault (Option Found)) : Except Fault (Option Found) :=
  match x with
  | .error (.noContainer ..) | .error (.beyondRoot _) | .error (.stillUnset _) => .ok none
  | x => x

variable (p : Loader)

mutual

/-- What a template stands for; `node` is the path of the template, and `pending` holds
    the paths of the templates that are being filled.  Fuel is the room for calls inside of
    each other. -/
def fill (sc : Scope) : (fuel : Nat) → (pending : List Path) → (node : Path) → Template →
    Except Fault Found
  | 0, _, _, _ => .error .tooDeep
  | fuel + 1, pending, node, t =>
    match t with
    | .literal s => .ok (Found.ofScalar s)
    | .overlong => .error .overlong
    | .hollow => .error (.misused .condition "WS should never be reached")
    | .join parts => do
      let texts ← parts.mapM fun p => fill sc fuel pending node p >>= Found.textInside
      return Found.ofScalar (.str (String.join texts))
    | .reference pieces => do
      let key ← keyText sc fuel pending node .badPiece pieces
      refer sc fuel pending node key
    | .call name arguments => do
      let name ← keyText sc fuel pending node .badName name
      let arguments ← arguments.mapM fun a => fill sc fuel pending node a
      Function.checkCount name arguments.length
      apply sc fuel node name arguments
    | .list items => do
      let items ← items.mapM fun i => (fill sc fuel pending node i).map Found.value
      return { value := .list items }
    | .dict entries => do
      let entries ← entries.mapM fun (k, e) => do
        let key ← (fill sc fuel pending node k).map fun f => match f.value with
          | .scalar s => s
          | _ => .null
        return (key, (← fill sc fuel pending node e).value)
      return { value := .dict (entries.foldl (fun es (k, v) => Entries.put k v es) []) }

/-- The text that pieces of a key make up: each is a text or, in a key, an integer. -/
def keyText (sc : Scope) : (fuel : Nat) → (pending : List Path) → (node : Path) →
    (complaint : String → String → String → Fault) → List (String × Template) →
    Except Fault String
  | 0, _, _, _, _ => .error .tooDeep
  | fuel + 1, pending, node, complaint, pieces => do
    let texts ← pieces.mapM fun (source, p) => do
      let f ← fill sc fuel pending node p
      let text ← f.text
      match f.value, complaint source text f.word with
      | .scalar (.str _), _ | .scalar (.int _), .badPiece .. => return text
      | _, fault => throw fault
    return String.join texts

/-- What a reference to a key leads to: not what holds the reference. -/
def refer (sc : Scope) : (fuel : Nat) → (pending : List Path) → (node : Path) → String →
    Except Fault Found
  | 0, _, _, _ => .error .tooDeep
  | fuel + 1, pending, node, key => do
    let found := (search sc fuel pending node key).mapError fun fault => match fault with
      | .beyondRoot key => .referenceBeyondRoot key
      | .stillUnset key => .unsetReference key
      | f => f
    match ← found with
    | none => throw (.unknownReference key (String.ofList (key.toList.dropWhile (· == '.'))))
    | some f =>
      if f.home.any fun home => leadsTo home node.dropLast then throw .enclosing
      return { f with held := true }

/-- Search for a key; the key without a single part is that of what is around. -/
def search (sc : Scope) : (fuel : Nat) → (pending : List Path) → (node : Path) → String →
    Except Fault (Option Found)
  | 0, _, _, _ => .error .tooDeep
  | fuel + 1, pending, node, key => do
    let around := node.dropLast
    let points := (key.toList.takeWhile (· == '.')).length
    if around.length + 1 < points then throw (.beyondRoot key)
    let start := if points = 0 then [] else around.take (around.length + 1 - points)
    let key := key.toList.drop points
    let names := if key.isEmpty then [] else Key.parts key
    match at? sc.root start with
    | none => return none
    | some v => descend sc fuel pending names { value := v, home := some start, held := true } 0

/-- Search for the parts of a key in a collection, from one of them on. -/
def descend (sc : Scope) : (fuel : Nat) → (pending : List Path) → (names : List String) →
    Found → (start : Nat) → Except Fault (Option Found)
  | 0, _, _, _, _ => .error .tooDeep
  | fuel + 1, pending, names, f, k => do
    match names.drop k with
    | [] => return some f
    | name :: r =>
      match ← step f.value name with
      | none => return none
      | some (key, v) =>
        let home := f.home.map (· ++ [key])
        if isUnset v then
          let site := sc.siteAt (f.home.getD [])
          throw (.stillUnset (site.fullKey key.text?))
        let f ← match template? v with
          | none => pure { value := v, home := home, held := true }
          | some s => valueOf sc fuel pending (home.getD []) s
        match r with
        | [] => return some f
        | next :: _ =>
          if isCollection f.value then descend sc fuel pending names f (k + 1)
          else
            let way := ".".intercalate (names.take (k + 1))
            throw (.noContainer (".".intercalate names) way next)

/-- What the template at a path stands for. -/
def contentOf (sc : Scope) : (fuel : Nat) → (pending : List Path) → Path → String →
    Except Fault Found
  | 0, _, _, _ => .error .tooDeep
  | fuel + 1, pending, path, s => do
    if !p.reads fuel s then throw .tooDeep
    let t ← (Template.read s).mapError Fault.malformed
    let note := sc.note path false (.scalar .null)
    let content : Except Fault Found := do
      if pending.any (samePath path) then throw .circular
      let f ← fill sc fuel (path :: pending) path t
      if !f.held && isUnset f.value then throw (.unsetResult note.fullKey)
      return f
    located note (content.mapError Fault.asResolution)

/-- The value of the template at a path: what it stands for, converted to the kind of
    the field that holds it. -/
def valueOf (sc : Scope) : (fuel : Nat) → (pending : List Path) → Path → String →
    Except Fault Found
  | 0, _, _, _ => .error .tooDeep
  | fuel + 1, pending, path, s => do
    let f ← contentOf sc fuel pending path s
    match sc.kindAt? path with
    | none => return { f with held := true }
    | some k => convert k s (sc.note path f.held f.value) f

/-- The result of a function, which does not know what templates are being filled. -/
def apply (sc : Scope) : (fuel : Nat) → (node : Path) → (name : String) → List Found →
    Except Fault Found
  | 0, _, _, _ => .error .tooDeep
  | fuel + 1, node, name, arguments => do
    let selected (key : String) : Except Fault (Option Found) :=
      orNowhere (search sc fuel [] node key)
    let entriesAt (f : Found) : Except Fault (String × Entries) := do
      match f.value with
      | .scalar (.str key) =>
        match ← selected key with
        | none => throw (.noSuchKey "" key)
        | some ⟨.dict es, _, _⟩ => return (key, es)
        | some g => throw (Function.unsuited name g)
      | _ => throw (Function.textless name f)
    match name, arguments with
    | "oc.select", f :: fallback =>
      match f.value with
      | .scalar (.str key) =>
        match ← selected key with
        | some g => return { g with held := isCollection g.value }
        | none => return fallback.headD (Found.ofScalar .null)
      | _ => throw (.misused .property s!"'{f.word}' object has no attribute 'startswith'")
    | "oc.decode", [f] =>
      match f.value with
      | .scalar .null => return f
      | .scalar (.str s) =>
        if !p.reads fuel s then throw .tooDeep
        let t ← (Template.readArgument s).mapError Fault.malformed
        let g ← (fill sc fuel [] node t).mapError Fault.asResolution
        return { g with held := isCollection g.value && g.held }
      | _ => throw (Function.undecodable f)
    | "oc.deprecated", f :: message =>
      match f.value with
      | .scalar (.str key) =>
        match message.filter fun m => !m.isText with
        | m :: _ => throw (Function.notText "message" m)
        | [] =>
          match ← search sc fuel [] node key with
          | some g => return { g with held := true }
          | none =>
            let place := (sc.note node false (.scalar .null)).fullKey
            throw (.noSuchKey s!"In oc.deprecated resolver at '{place}': " key)
      | _ => throw (Function.notText "key" f)
    | "oc.dict.keys", [f] =>
      let (_, es) ← entriesAt f
      return { value := .list (es.map fun e => .scalar e.1), held := true }
    | "oc.dict.values", [f] =>
      let (key, es) ← entriesAt f
      return { value := .list (Function.references key es), held := true }
    | "oc.env", f :: fallback => Function.environment p f fallback.head?
    | "oc.create", [f] => Function.creation p (sc.siteAt node.dropLast) f
    | "oc.coerce", [kind, f] => Function.coercion kind f
    | name, _ => throw (.unknownFunction name)

end

namespace Scope

/-- What the template at a path stands for. -/
def content (p : Loader) (sc : Scope) (path : Path) (s : String) : Except Fault Found :=
  contentOf p sc p.room [] path s

end Scope

end Chip8.Settings
