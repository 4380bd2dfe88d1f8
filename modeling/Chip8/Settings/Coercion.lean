/-
  Chip8/Settings/Coercion.lean
  ============================
  **Kinds that values are converted to** — those of the fields, numbers with a
  fraction, and bytes.

  A conversion to the kind of a field is that of the field.
-/
import Chip8.Settings.Field

namespace Chip8.Settings

open Chip8.Yaml (Scalar Value)

/-- A kind that a value is converted to. -/
inductive Target where
  /-- The kind of a field. -/
  | field (k : Kind)
  | float
  | bytes
  deriving DecidableEq, Repr

namespace Target

/-- The name of a target. -/
def word : Target → String
  | field k => k.word
  | float => "float"
  | bytes => "bytes"

/-- All targets. -/
def all : List Target := [field .integer, field .flag, float, field .text, bytes]

/-- The target of a name. -/
def ofWord? (name : String) : Option Target := all.find? fun t => t.word == name

/-- A scalar as a number with a fraction. -/
def floatOf? : Scalar → Option Float
  | .float x => some x
  | .int i => Text.Decimal.ofInt? i
  | .str s => Text.readFloat? s.toList
  | _ => none

/-- A value converted to a target, if it can be. -/
def convert? (t : Target) (v : Value) : Option Scalar :=
  match t, v with
  | field k, v => (k.ofValue? v).map k.toScalar
  | float, .scalar s => (floatOf? s).map .float
  | bytes, .scalar (.bytes bs) => some (.bytes bs)
  | _, _ => none

/-- What is said about a value that is not converted, with placeholders for the value
    and the name of its kind. -/
def complaint : Target → String
  | field .integer => "Value '$VALUE' of type '$VALUE_TYPE' could not be converted to Integer"
  | field .flag => "Value '$VALUE' is not a valid bool (type $VALUE_TYPE)"
  | field .text => "Cannot convert '$VALUE_TYPE' to string: '$VALUE'"
  | float => "Value '$VALUE' of type '$VALUE_TYPE' could not be converted to Float"
  | bytes => "Value '$VALUE' of type '$VALUE_TYPE' is not of type 'bytes'"

/-- A value that is converted to the kind of a field is converted to itself afterwards. -/
theorem convert?_field_idem {k : Kind} {v : Value} {s : Scalar}
    (h : convert? (field k) v = some s) : convert? (field k) (.scalar s) = some s := by
  simp only [convert?, Option.map_eq_some_iff] at h ⊢
  obtain ⟨x, -, rfl⟩ := h
  exact ⟨x, Kind.ofScalar?_toScalar k x, rfl⟩

end Target

end Chip8.Settings
