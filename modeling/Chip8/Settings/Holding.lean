/-
  Chip8/Settings/Holding.lean
  ===========================
  **What collections hold** — texts, numbers, truth values, bytes, null and further
  collections, under keys that are texts, numbers, truth values or bytes.

  A text that looks like a template has to be one, which takes a process that can read it,
  or come close to one.  No dictionary has an integer and its text as keys.  Values are looked
  at in their order, and the first fault counts.
-/
import Chip8.Settings.Path
import Chip8.Settings.Loader
import Chip8.Settings.Template.Reading
import Chip8.Settings.Template.Simple

namespace Chip8.Settings

open Chip8.Yaml (Entries Scalar Value)

namespace Holding

/-- A key among others that is an integer where another is its text. -/
def rival? (keys : List Scalar) : Scalar → Option Scalar
  | .int i => keys.find? fun k => match k with
    | .str t => writtenInt? t == some i
    | _ => false
  | .str t => (writtenInt? t).bind fun i => keys.find? (isIntKey i)
  | _ => none

/-- A key does not stand beside a rival. -/
def checkRival (s : Site) (keys : List Scalar) (k : Scalar) (v : Value) : Except Fault Unit :=
  match rival? keys k with
  | none => .ok ()
  | some old =>
    .error ((Fault.clashingKeys (old.quoted?.getD "") (k.quoted?.getD "")).place
      (s.note (some k) false v))

/-- A key of a dictionary; a day or a time has no name in full. -/
def checkKey (s : Site) (keys : List Scalar) (k : Scalar) (v : Value) : Except Fault Unit :=
  match k with
  | .null => .error ((Fault.badKey k.kindWord).place (s.note none false v))
  | .date | .moment =>
    .error ((Fault.badKey k.kindWord).place { s.note (some k) false v with fullKey := "" })
  | k => checkRival s keys k v

variable (p : Loader)

/-- A text that looks like a template comes close enough to one to be held until it is asked
    for, or else it is read. -/
def checkText (t : String) : Except Fault Unit :=
  if !Template.isOpened t.toList || Template.isSimple t.toList then .ok ()
  else if !p.reads p.room t then .error .tooDeep
  else match Template.read t with
    | .ok _ => .ok ()
    | .error m => .error (.malformed m)

/-- A value that is no collection is one that collections hold. -/
def checkLeaf : Value → Except Fault Unit
  | .scalar (.str t) => checkText p t
  | .scalar .date => .error (.unsupported Scalar.date.kindWord)
  | .scalar .moment => .error (.unsupported Scalar.moment.kindWord)
  | .set => .error (.unsupported (kindWord false .set))
  | _ => .ok ()

mutual

/-- The value of a key at a site is one that collections hold, through and through. -/
def check (s : Site) (key : Scalar) : (depth : Nat) → Value → Except Fault Unit
  | 0, .list _ => .error .tooDeep
  | 0, .tuple _ => .error .tooDeep
  | 0, .dict _ => .error .tooDeep
  | depth + 1, .list items => checkItems (s.enter (key.text?.getD "") .list) depth 0 items
  | depth + 1, .tuple items => checkItems (s.enter (key.text?.getD "") .tuple) depth 0 items
  | depth + 1, .dict es => checkEntries (s.enter (key.text?.getD "") .dict) depth [] es
  | _, v => located (s.note (some key) false v) (checkLeaf p v)

/-- The items of a collection are values that collections hold. -/
def checkItems (s : Site) (depth : Nat) : (index : Nat) → List Value → Except Fault Unit
  | _, [] => .ok ()
  | index, v :: r => do
    check s (.int index) depth v
    checkItems s depth (index + 1) r

/-- The keys and values of a dictionary are such that collections hold them; `keys` are
    those seen so far. -/
def checkEntries (s : Site) (depth : Nat) :
    (keys : List Scalar) → List (Scalar × Value) → Except Fault Unit
  | _, [] => .ok ()
  | keys, (k, v) :: r => do
    checkKey s keys k v
    check s k depth v
    checkEntries s depth (k :: keys) r

end

/-- A collection on its own holds what collections hold; `s` is its site. -/
def checkWhole (s : Site) : Value → Except Fault Unit
  | .list items => checkItems p s p.collections 0 items
  | .tuple items => checkItems p s p.collections 0 items
  | .dict es => checkEntries p s p.collections [] es
  | _ => .ok ()

/-- A scalar is held or is not, however deep it is. -/
theorem check_scalar (s : Site) (key : Scalar) (depth : Nat) (x : Scalar) :
    check p s key depth (.scalar x) =
      located (s.note (some key) false (.scalar x)) (checkLeaf p (.scalar x)) := by
  cases depth <;> rfl

end Holding

end Chip8.Settings
