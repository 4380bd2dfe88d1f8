/-
  Chip8/Settings/Path.lean
  ========================
  **Paths** — the keys that lead from a collection to something in it.

  A name stands for a key that is there: in a dictionary a text, or else the integer
  that it writes; in a list or a tuple a place, which may be counted from the end.
-/
import Chip8.Settings.Fault

namespace Chip8.Settings

open Chip8.Yaml (Entries Scalar Value)

/-- A way through nested collections. -/
abbrev Path := List Scalar

/-- What a key leads to in a collection. -/
def child? : Value → Scalar → Option Value
  | .dict es, key => Entries.get? es key
  | .list items, .int i => if 0 ≤ i then items[i.toNat]? else none
  | .tuple items, .int i => if 0 ≤ i then items[i.toNat]? else none
  | _, _ => none

/-- What a path leads to. -/
def at? : Value → Path → Option Value
  | v, [] => some v
  | v, key :: r => (child? v key).bind fun w => at? w r

/-- Change what a path leads to; nothing changes where it leads to nothing. -/
def modifyAt (f : Value → Value) : Path → Value → Value
  | [], v => f v
  | key :: r, .dict es =>
    .dict (es.map fun e => if e.1.sameKey key then (e.1, modifyAt f r e.2) else e)
  | .int i :: r, .list items =>
    .list (if 0 ≤ i then items.modify i.toNat (modifyAt f r) else items)
  | .int i :: r, .tuple items =>
    .tuple (if 0 ≤ i then items.modify i.toNat (modifyAt f r) else items)
  | _ :: _, v => v

/-- Give a key in a collection a value. -/
def setChild (key : Scalar) (v : Value) : Value → Value
  | .dict es => .dict (Entries.put key v es)
  | .list items =>
    match key with
    | .int i => .list (if 0 ≤ i then items.set i.toNat v else items)
    | _ => .list items
  | w => w

/-- A path is the beginning of another. -/
def leadsTo : (p q : Path) → Bool
  | [], _ => true
  | _ :: _, [] => false
  | a :: p, b :: q => a.sameKey b && leadsTo p q

/-! ### Names -/

/-- The integer that a text writes in its only form. -/
def writtenInt? (name : String) : Option Int :=
  (Text.readInt? name.toList).filter fun i => Text.intText? i == some name

/-- A key that is an integer and no truth value. -/
def isIntKey (i : Int) : Scalar → Bool
  | .int j => i == j
  | _ => false

/-- The key of a dictionary that a name stands for. -/
def entryKey (es : Entries) (name : String) : Scalar :=
  if (Entries.get? es (.str name)).isSome then .str name
  else match writtenInt? name with
    | some i => if es.any fun e => isIntKey i e.1 then .int i else .str name
    | none => .str name

/-- Among texts a name is itself. -/
theorem entryKey_of_texts {es : Entries} (htexts : ∀ e ∈ es, ∃ t, e.1 = .str t) (name : String) :
    entryKey es name = .str name := by
  have hints : ∀ i, (es.any fun e => isIntKey i e.1) = false := by
    intro i
    rw [List.any_eq_false]
    intro e he
    obtain ⟨t, ht⟩ := htexts e he
    rw [ht]
    exact nofun
  unfold entryKey
  split
  · rfl
  · split
    · next i _ => rw [hints i]; rfl
    · rfl

/-- The place of an item in a list of a size; from the end for negative numbers. -/
def itemIndex? (size : Nat) (i : Int) : Option Nat :=
  if 0 ≤ i then if i < size then some i.toNat else none
  else if -(size : Int) ≤ i then some (i + size).toNat else none

/-- The items of a list or a tuple. -/
def items? : Value → Option (List Value)
  | .list items | .tuple items => some items
  | _ => none

/-! ### Sites -/

/-- What kind of holder a collection is. -/
def holderOf? : Value → Option Holder
  | .dict _ => some .dict
  | .list _ => some .list
  | .tuple _ => some .tuple
  | _ => none

/-- The site of a key that holds a value. -/
def Site.into (s : Site) (key : Scalar) (v : Value) : Site :=
  match holderOf? v with
  | some h => s.enter (key.text?.getD "") h
  | none => s

/-- The site of the collection that a path leads to, from that of the outermost one. -/
def Site.along (s : Site) : Value → Path → Site
  | _, [] => s
  | v, key :: r =>
    match child? v key with
    | some w => (s.into key w).along w r
    | none => s

end Chip8.Settings
