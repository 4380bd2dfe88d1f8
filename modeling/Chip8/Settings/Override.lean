/-
  Chip8/Settings/Override.lean
  ============================
  **Overrides** — texts `key=value`, each of which gives a value for a key, and
  what a list of them gives in all.

  `Override.read` reads one; `collect` reads them in order.  A key keeps the place
  of its first override and the value of its last, except that collections under
  one key are joined.
-/
import Chip8.Settings.Tree

namespace Chip8.Settings

open Chip8.Yaml (Entries Scalar Value)

/-- A value for what a key leads to. -/
structure Override where
  names : List String
  value : Value

namespace Override

/-- Split a text at its first equals sign; a character after a backslash is none. -/
def split : List Char → List Char × Option (List Char)
  | [] => ([], none)
  | '=' :: r => ([], some r)
  | '\\' :: c :: r => ('\\' :: c :: (split r).1, (split r).2)
  | c :: r => (c :: (split r).1, (split r).2)

/-- A text without a backslash is split where its first equals sign is. -/
theorem split_of_key {key : List Char} (value : List Char)
    (h : ∀ c ∈ key, c ≠ '=' ∧ c ≠ '\\') : split (key ++ '=' :: value) =
      (key, some value) := by
  induction key with
  | nil => simp [split]
  | cons c r ih =>
    have hc := h c List.mem_cons_self
    rw [List.cons_append, split.eq_4 _ _ hc.1 fun _ _ h1 _ => hc.2 h1,
      ih fun d hd => h d (List.mem_cons_of_mem _ hd)]

/-- The value that is written after the equals sign; without one it is null. -/
def readValue (p : Loader) : Option (List Char) → Except Fault Value
  | none => .ok (.scalar .null)
  | some r =>
    let text := String.ofList r
    (Yaml.Value.read p.copies text).mapError (Fault.unreadable text)

/-- Read an override. -/
def read (p : Loader) (text : String) : Except Fault Override := do
  let (key, rest) := split text.toList
  let value ← readValue p rest
  return ⟨Key.parts key, value⟩

/-- Put the value of an override where its key leads. -/
def apply (p : Loader) (root : Value) (o : Override) : Except Fault Value :=
  match o.names with
  | [] => .error .keyless
  | names => Tree.put p root names o.value

end Override

/-- What a list of overrides gives, in order. -/
def collect (p : Loader) (texts : List String) : Except Fault Entries := do
  let put (root : Value) (text : String) := Override.read p text >>= Override.apply p root
  match ← texts.foldlM put (.dict []) with
  | .dict es => return es
  | _ => return []

end Chip8.Settings
