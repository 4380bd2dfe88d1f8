/-
  Chip8/Settings/Site.lean
  ========================
  **Sites** — where in nested collections something is, and how its key is written in
  full.

  A full key has points before names and brackets around the places of items.  The
  site of a collection itself is written like that of its last key, except that this
  key has no brackets of its own.
-/
namespace Chip8.Settings

/-- What holds values. -/
inductive Holder where
  | settings
  | dict
  | list
  | tuple
  deriving DecidableEq, Repr

namespace Holder

/-- Items stand at places. -/
def isOrdered : Holder → Bool
  | list | tuple => true
  | _ => false

/-- The name of a holder in messages. -/
def word : Holder → String
  | settings => "EmulatorConfig"
  | dict => "dict"
  | list => "list"
  | tuple => "tuple"

/-- What may stand where a holder stands, if that is limited. -/
def limits? : Holder → Option String
  | tuple => some "Optional[Tuple[Any, ...]]"
  | _ => none

end Holder

/-- A holder and its key in the holder around it. -/
structure Level where
  holder : Holder
  key : Option String := none
  deriving DecidableEq, Repr

/-- The holders around something, from the innermost one on. -/
abbrev Site := List Level

namespace Site

/-- The innermost holder. -/
def holder (s : Site) : Holder := (s.head?.map Level.holder).getD .dict

/-- Write a key in front of a full key; `around` is what holds the key, and `own` is what
    the key leads to, if more than the value at the end. -/
def prepend (around own : Option Holder) (key full : String) : String :=
  let close := own.any Holder.isOrdered
  if around.any Holder.isOrdered then
    if full.isEmpty || close then s!"[{key}]{full}" else s!"[{key}].{full}"
  else if full.isEmpty then key
  else if close then s!"{key}{full}"
  else s!"{key}.{full}"

/-- Write the keys of levels in front of a full key. -/
def prependAll : Site → String → String
  | [], full => full
  | l :: r, full =>
    match l.key with
    | some key => prependAll r (prepend (r.head?.map Level.holder) (some l.holder) key full)
    | none => prependAll r full

/-- The full key of something in a collection; without a key, that of the collection. -/
def fullKey (s : Site) (key : Option String) : String :=
  match key.filter fun k => !k.isEmpty, s with
  | some k, s => prependAll s (prepend (s.head?.map Level.holder) none k "")
  | none, l :: r =>
    match l.key with
    | some k => prependAll r k
    | none => ""
  | none, [] => ""

/-- The site of a collection in a collection. -/
def enter (s : Site) (key : String) (h : Holder) : Site := ⟨h, some key⟩ :: s

end Site

end Chip8.Settings
