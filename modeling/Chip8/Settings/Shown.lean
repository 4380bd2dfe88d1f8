/-
  Chip8/Settings/Shown.lean
  =========================
  **Values as text** — how values and their kinds are shown in messages and where a
  text is put together from values.

  A value that collections of settings hold is shown without the backslash before a
  mark; a value on its own is shown as it is.
-/
import Chip8.Yaml.Value

namespace Chip8.Settings

open Chip8.Yaml (Scalar Value)

/-- The mark of a value that is still to come. -/
def unsetMark : String := "???"

/-- Backslashes before a mark. -/
def isEscapedMark (s : String) : Bool :=
  s.toList.head? == some '\\' && s.toList.dropWhile (· == '\\') == unsetMark.toList

/-- The mark of a value that is still to come is a text of its own after a backslash;
    of several backslashes, one is dropped. -/
def withoutEscape (s : String) : String :=
  if isEscapedMark s then String.ofList s.toList.tail else s

theorem withoutEscape_eq_self {s : String} (h : s.toList.head? ≠ some '\\') :
    withoutEscape s = s := by
  simp [withoutEscape, isEscapedMark, h]

mutual

/-- The text of a value inside a collection; `none` where a number is too long. -/
def quoted? (held : Bool) : Value → Option String
  | .scalar (.str s) => (Scalar.str (if held then withoutEscape s else s)).quoted?
  | .scalar s => s.quoted?
  | .list items => (itemTexts? held items).map fun ts => "[" ++ ", ".intercalate ts ++ "]"
  | .tuple items => (itemTexts? held items).map fun ts => "(" ++ ", ".intercalate ts ++ ")"
  | .dict entries =>
    (entryTexts? held entries).map fun ts => "\x7b" ++ ", ".intercalate ts ++ "\x7d"
  | .set => none

/-- The texts of the items of a list. -/
def itemTexts? (held : Bool) : List Value → Option (List String)
  | [] => some []
  | v :: r => (quoted? held v).bind fun t => (itemTexts? held r).map (t :: ·)

/-- The texts of the entries of a dictionary. -/
def entryTexts? (held : Bool) : List (Scalar × Value) → Option (List String)
  | [] => some []
  | (k, v) :: r =>
    k.quoted?.bind fun kt => (quoted? held v).bind fun vt =>
      (entryTexts? held r).map ((kt ++ ": " ++ vt) :: ·)

end

/-- The text of a value; `none` where a number is too long. -/
def text? (held : Bool) : Value → Option String
  | .scalar s => s.text?
  | v => quoted? held v

/-- The name of the kind of a value. -/
def kindWord (held : Bool) : Value → String
  | .scalar s => s.kindWord
  | .list _ => if held then "ListConfig" else "list"
  | .tuple _ => if held then "TupleConfig" else "tuple"
  | .dict _ => if held then "DictConfig" else "dict"
  | .set => "set"

/-- A list, a tuple or a dictionary. -/
def isCollection : Value → Bool
  | .list _ | .tuple _ | .dict _ => true
  | _ => false

/-- The mark of a value that is still to come. -/
def isUnset : Value → Bool
  | .scalar (.str s) => s == unsetMark
  | _ => false

end Chip8.Settings
