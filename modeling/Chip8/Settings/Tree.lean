/-
  Chip8/Settings/Tree.lean
  ========================
  **Values under keys** — a value is put where a key leads, through collections
  that are there already or are made on the way.

  A collection that is put where one of its kind is joins it: entries are added to
  those of a dictionary, and a list takes the place of another.  A reference on the way is
  followed; the items of a tuple stay as they are.
-/
import Chip8.Settings.Filling

namespace Chip8.Settings

open Chip8.Yaml (Entries Scalar Value)

namespace Tree

/-- The outermost values as those that templates refer to. -/
def scope (root : Value) : Scope := ⟨root, false⟩

variable (p : Loader)

/-! ### Joining -/

/-- A template that stands for a collection makes way for it; what goes wrong while it is
    filled leaves it as it is. -/
def unfold (root : Value) (path : Path) : Except Fault Value :=
  match (at? root path).bind template? with
  | none => .ok root
  | some s =>
    match (scope root).content p path s with
    | .ok f => .ok (if isCollection f.value then modifyAt (fun _ => f.value) path root else root)
    | .error (.malformed m) => .error (.malformed m)
    | .error _ => .ok root

/-- Give a key of the collection at a path a value. -/
def setAt (root : Value) (home : Path) (key : Scalar) (v : Value) : Value :=
  modifyAt (setChild key v) home root

/-- A key that is new to the collection at a path. -/
def addAt (root : Value) (home : Path) (key : Scalar) (v : Value) : Except Fault Value := do
  match at? root home with
  | some (.dict es) =>
    Holding.checkRival ((scope root).siteAt home) (es.map Prod.fst) key v
  | _ => pure ()
  return setAt root home key v

mutual

/-- Put a collection where one is, at a path. -/
def joinAt (root : Value) (home : Path) : Value → Except Fault Value
  | .dict new =>
    match at? root home with
    | some (.dict _) => joinEntries root home new
    | _ => .error .unmergeable
  | .list new =>
    match at? root home with
    | some (.list _) => .ok (modifyAt (fun _ => .list new) home root)
    | some (.tuple _) => .error .frozen
    | _ => .error .unmergeable
  | .tuple new => .ok (modifyAt (fun _ => .tuple new) home root)
  | _ => .ok root

/-- Put entries into the dictionary at a path.  The mark of a value that is still to come
    leaves what is there as it is. -/
def joinEntries (root : Value) (home : Path) : List (Scalar × Value) → Except Fault Value
  | [] => .ok root
  | (k, v) :: r => do
    let root ← unfold p root (home ++ [k])
    let root ←
      match at? root (home ++ [k]) with
      | none => addAt root home k v
      | some w =>
        if isCollection w && isCollection v then joinAt root (home ++ [k]) v
        else pure (if isUnset v then root else setAt root home k v)
    joinEntries root home r

end

/-! ### Putting a value under a key -/

/-- A key in the collection at a path: the place of an item, which has to be there. -/
def itemKey (root : Value) (home : Path) (items : List Value) (i : Int) (v : Value) :
    Except Fault Scalar :=
  match itemIndex? items.length i with
  | some n => .ok (.int n)
  | none =>
    .error (Fault.noSuchItem.place (((scope root).siteAt home).note (some (.int i)) false v))

/-- Give a key of the collection at a path a value that takes the place of what is
    there: the items of a tuple are as they are for good. -/
def replace (root : Value) (home : Path) (key : Scalar) (v : Value) : Except Fault Value := do
  let site := (scope root).siteAt home
  match at? root home with
  | some (.tuple _) => throw (Fault.frozen.place (site.note (some key) false v))
  | _ =>
    Holding.check p site key p.collections v
    return setAt root home key v

/-- Give a key of the collection at a path a value, which may join what is there. -/
def place (root : Value) (home : Path) (key : Scalar) (v : Value) : Except Fault Value := do
  match at? root (home ++ [key]), holderOf? v with
  | some w, some h =>
    if isCollection w then
      Holding.checkWhole p [⟨h, none⟩] v
      let site := (scope root).siteAt (home ++ [key])
      located (site.note none false (.scalar .null)) (joinAt p root (home ++ [key]) v)
    else replace p root home key v
  | _, _ => replace p root home key v

/-- The root with a value under the last name of a key, in the collection at a path. -/
def putLast (root : Value) (home : Path) (name : String) (v : Value) : Except Fault Value :=
  match (at? root home).getD (.dict []) with
  | .dict es => place p root home (entryKey es name) v
  | .list items =>
    match Text.readInt? name.toList with
    | none => .error .badIndex
    | some i => itemKey root home items i v >>= fun key => place p root home key v
  | .tuple items =>
    match Text.readInt? name.toList with
    | none => .error .badIndex
    | some i => place p root home (((itemIndex? items.length i).map fun n => .int n).getD (.int i)) v
  | _ => .ok root

/-- The key of a name on the way, and what is there. -/
def stepAt (root : Value) (home : Path) (name : String) :
    Except Fault (Scalar × Option Value) := do
  let here := (at? root home).getD (.dict [])
  match ← step here name, here with
  | some (key, v), _ => return (key, some v)
  | none, .dict es => return (entryKey es name, none)
  | none, .tuple _ => return (.int ((Text.readInt? name.toList).getD 0), none)
  | none, _ =>
    let i := (Text.readInt? name.toList).getD 0
    return (← itemKey root home ((items? here).getD []) i (.dict []), none)

/-- A text that is a reference and nothing else. -/
def reference? (v : Value) : Except Fault (Option String) :=
  match template? v with
  | none => .ok none
  | some s =>
    match Template.read s with
    | .ok t => .ok (if t.isReference then some s else none)
    | .error m => .error (.malformed m)

/-- The root with a value put where the names of a key lead from the collection at a
    path.  What is on the way and no collection becomes one; a reference on the way
    leads to where its value is, and beyond what is collected nothing is put.  Fuel bounds the
    number of names. -/
def putFrom : (fuel : Nat) → (root : Value) → (home : Path) → List String → Value →
    Except Fault Value
  | 0, root, _, _, _ => .ok root
  | _, root, _, [], _ => .ok root
  | _, root, home, [name], v => putLast p root home name v
  | fuel + 1, root, home, name :: next :: r, v => do
    let (key, child) ← stepAt root home name
    let inner := home ++ [key]
    let renewed : Except Fault Value := do
      putFrom fuel (← replace p root home key (.dict [])) inner (next :: r) v
    match child with
    | none => renewed
    | some c =>
      if isCollection c then putFrom fuel root inner (next :: r) v
      else if isUnset c then
        throw (.stillUnset (((scope root).siteAt home).fullKey key.text?))
      else match ← reference? c with
        | none => renewed
        | some s =>
          let f ← ((scope root).content p inner s).mapError Fault.bare
          if !isCollection f.value then renewed
          else match f.home with
            | some target => putFrom fuel root target (next :: r) v
            | none =>
              Holding.check p [⟨.dict, none⟩] (.str (r.getLastD next)) p.collections v
              return root

/-- The root with a value put where the names of a key lead. -/
def put (root : Value) (names : List String) (v : Value) : Except Fault Value :=
  putFrom p (names.length + 1) root [] names v

/-- A scalar that is held takes the place of what stands under its name, if there is anything. -/
theorem put_scalar {es : Entries} (htexts : ∀ e ∈ es, ∃ t, e.1 = .str t) (name : String)
    (s : Scalar) :
    put p (.dict es) [name] (.scalar s) =
      (Holding.check p ((scope (.dict es)).siteAt []) (.str name) p.collections (.scalar s)).map
        fun _ => .dict (Entries.put (.str name) (.scalar s) es) := by
  have hplace : place p (.dict es) [] (.str name) (.scalar s) =
      replace p (.dict es) [] (.str name) (.scalar s) := by
    simp only [place, holderOf?]
    split
    · next hholder => cases hholder
    · rfl
  simp only [put, putFrom, putLast, at?, Option.getD_some, entryKey_of_texts htexts, hplace,
    replace, setAt, modifyAt, setChild]
  cases Holding.check _ _ _ _ _ <;> rfl

end Tree

end Chip8.Settings
