/-
  Chip8/Settings/Load.lean
  ========================
  **Loading settings** — overrides are read in order and collected, then what was
  collected is taken over into a draft of the settings, then the templates in the
  draft are filled, and at last the settings have to make sense.

  A failure of a step hides all later ones.  `load` returns valid settings only.
-/
import Chip8.Settings.Override

namespace Chip8.Settings

open Chip8.Yaml (Entries Scalar Value)

/-- What a field is to hold. -/
inductive Entry (k : Kind) where
  | value (v : k.Carrier)
  | template (s : String)

/-- An entry as it stands in a text. -/
def Entry.source {k : Kind} : Entry k → Value
  | value v => .scalar (k.toScalar v)
  | template s => .scalar (.str s)

/-- What each field is to hold. -/
abbrev Draft := (f : Field) → Entry f.kind

namespace Draft

/-- The default of each field. -/
def defaults : Draft := fun f => .value (Field.get {} f)

/-- Change what a field is to hold. -/
def put (d : Draft) (f : Field) (e : Entry f.kind) : Draft := fun g =>
  if h : f = g then h ▸ e else d g

theorem put_self (d : Draft) (f : Field) (e : Entry f.kind) : d.put f e f = e := by
  simp [put]

theorem put_of_ne (d : Draft) {f g : Field} (e : Entry f.kind) (h : g ≠ f) :
    d.put f e g = d g := by
  simp [put, Ne.symm h]

/-- The site of the fields. -/
def site : Site := [⟨.settings, none⟩]

/-- A value that does not fit a field. -/
def misfit (f : Field) (v : Value) : Fault :=
  let cause : Fault := match v with
    | .scalar .null => .missing (.field f.kind)
    | _ => .unsuitable (.field f.kind)
  cause.place (site.note (some (.str f.name)) true v)

/-- Take over a value for a field. -/
def give (d : Draft) (f : Field) (v : Value) : Except Fault Draft :=
  if isUnset v then .ok d
  else match template? v with
    | some s => .ok (d.put f (.template s))
    | none =>
      match f.kind.ofValue? v with
      | some x => .ok (d.put f (.value x))
      | none => .error (misfit f v)

/-- Take over a value for a key. -/
def giveKey (d : Draft) (key : Scalar) (v : Value) : Except Fault Draft :=
  let name := key.text?.getD ""
  match Field.ofName? name with
  | some f => d.give f v
  | none => .error ((Fault.unknownKey name).place (site.note (some key) true v))

/-! ### Templates -/

/-- The fields as values that templates refer to. -/
def scope (d : Draft) : Scope :=
  ⟨.dict (Field.all.map fun f => (.str f.name, (d f).source)), true⟩

variable (p : Loader)

/-- The value of the template of a field, converted to the kind of the field. -/
def filled (d : Draft) (f : Field) (s : String) : Except Fault f.kind.Carrier := do
  let path : Path := [.str f.name]
  let found ← d.scope.content p path s
  match f.kind.ofValue? found.value with
  | some x => return x
  | none =>
    let _ ← convert f.kind s (d.scope.note path found.held found.value) found
    throw .overlong

/-- The value of a field. -/
def resolve (d : Draft) (f : Field) : Except Fault f.kind.Carrier :=
  match d f with
  | .value v => .ok v
  | .template s => d.filled p f s

/-- The settings of a draft. -/
def settings (d : Draft) : Except Fault Settings :=
  Field.all.foldlM (fun s f => (d.resolve p f).map fun v => Field.set s f (f.kind.unescaped v)) {}

end Draft

/-! ### Loading -/

/-- Take over everything that is given. -/
def draftOf (given : Entries) : Except Fault Draft :=
  given.foldlM (fun d entry => d.giveKey entry.1 entry.2) Draft.defaults

/-- Why settings cannot be loaded. -/
inductive LoadError where
  /-- What is given cannot be taken over. -/
  | fault (f : Fault)
  /-- The settings make no sense. -/
  | invalid (i : Invalid)
  /-- The settings make no sense, and the complaint about them would hold an integer that
      is too long. -/
  | overlongComplaint

/-- The text to report for settings that cannot be loaded; not every failure is
    reported as one of the settings. -/
def LoadError.report? : LoadError → Option String
  | fault f => if f.isRefusal then some f.message else none
  | invalid i => some i.message
  | overlongComplaint => none

/-- What a list of overrides makes of the settings, whether they make sense or not. -/
def given (p : Loader) (overrides : List String) : Except Fault Settings := do
  let entries ← collect p overrides
  let draft ← draftOf entries
  draft.settings p

/-- Load settings from overrides. -/
def load (p : Loader) (overrides : List String) : Except LoadError Settings := do
  let settings ← (given p overrides).mapError LoadError.fault
  match settings.complaint? with
  | some i => throw (if i.isPrintable then .invalid i else .overlongComplaint)
  | none => return settings

/-! ### Settings that load -/

variable {p : Loader} {overrides : List String} {c : Settings}

theorem valid_of_load (h : load p overrides = .ok c) : c.Valid := by
  unfold load at h
  cases hgiven : given p overrides with
  | error f =>
    rw [hgiven] at h
    cases h
  | ok s =>
    rw [hgiven] at h
    change (match s.complaint? with
      | some i => Except.error (if i.isPrintable then LoadError.invalid i else .overlongComplaint)
      | none => Except.ok s) = Except.ok c at h
    split at h
    · cases h
    · next hcomplaint =>
      cases h
      exact (complaint?_eq_none_iff _).1 hcomplaint

theorem load_eq_ok_of_toOption (h : (load p overrides).toOption = some c) :
    load p overrides = .ok c := by
  cases hload : load p overrides with
  | error e =>
    rw [hload] at h
    cases h
  | ok s =>
    rw [hload] at h
    cases h
    rfl

end Chip8.Settings
