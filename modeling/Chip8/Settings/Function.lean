/-
  Chip8/Settings/Function.lean
  ============================
  **Functions in templates** — those whose results depend on their arguments and on the
  process alone, and how many arguments each function takes.
-/
import Chip8.Settings.Holding

namespace Chip8.Settings

open Chip8.Yaml (Entries Scalar Value)

/-- A value that comes up while a template is filled. -/
structure Found where
  value : Value
  /-- Where it is, if it is part of the values. -/
  home : Option Path := none
  /-- It is one of the values that collections hold. -/
  held : Bool := false

namespace Found

/-- A scalar that no collection holds. -/
def ofScalar (s : Scalar) : Found := { value := .scalar s }

/-- The name of its kind. -/
def word (f : Found) : String := kindWord f.held f.value

/-- It is a text. -/
def isText (f : Found) : Bool :=
  match f.value with
  | .scalar (.str _) => true
  | _ => false

/-- Its text, which a too long integer does not have. -/
def text (f : Found) : Except Fault String :=
  match text? f.held f.value with
  | some s => .ok s
  | none => .error .overlong

/-- A fault that shows its text. -/
def shown (f : Found) (say : String → Fault) : Fault :=
  match f.text with
  | .ok s => say s
  | .error fault => fault

/-- Its text inside of another: a text that is held comes without the escape of a
    mark. -/
def textInside (f : Found) : Except Fault String :=
  f.text.map fun s => match f.value with
    | .scalar (.str s) => if f.held then withoutEscape s else s
    | _ => s

end Found

namespace Function

/-! ### Numbers of arguments -/

/-- What a function is called inside, and its arguments: those that have to be given, the
    number of those that may be given, and the names of what is given in any case, in
    order or by name only. -/
structure Signature where
  name : String
  required : List String
  optional : Nat := 0
  surrounding : List String := []
  byName : Nat := 0
  deriving DecidableEq, Repr

/-- The functions by their names. -/
def signatures : List (String × Signature) := [
  ("oc.select", { name := "select", required := ["key"], optional := 1, byName := 1 }),
  ("oc.decode", { name := "decode", required := ["expr"], surrounding := ["_parent_", "_node_"] }),
  ("oc.deprecated", { name := "deprecated", required := ["key"], optional := 1, byName := 2 }),
  ("oc.dict.keys", { name := "keys", required := ["key"], surrounding := ["_parent_"] }),
  ("oc.dict.values",
    { name := "values", required := ["key"], surrounding := ["_root_", "_parent_"] }),
  ("oc.env", { name := "env", required := ["key"], optional := 1 }),
  ("oc.create", { name := "create", required := ["obj"], surrounding := ["_parent_"] }),
  ("oc.coerce", { name := "coerce", required := ["type", "value"] })]

/-- A number with a noun in its singular or plural form. -/
def counted (n : Nat) (noun : String) : String :=
  s!"{n} {noun}" ++ (if n = 1 then "" else "s")

/-- Names in quotes, with a word before the last one. -/
def enumeration (names : List String) : String :=
  match (names.map fun n => s!"'{n}'").reverse with
  | last :: second :: r => ", ".intercalate (second :: r).reverse ++ s!" and {last}"
  | names => ", ".intercalate names

/-- The complaint about a number of arguments, if there is one. -/
def Signature.complaint? (s : Signature) (given : Nat) : Option String :=
  let least := s.required.length
  let most := least + s.optional
  if given < least then
    let lacking := s.required.drop given
    let count := counted lacking.length "required positional argument"
    some s!"{s.name}() missing {count}: {enumeration lacking}"
  else if given ≤ most then none
  else
    let hit := s.surrounding.take (given - most)
    if hit.contains "_parent_" then
      some s!"{s.name}() got multiple values for argument '_parent_'"
    else match hit with
      | name :: _ => some s!"{s.name}() got multiple values for argument '{name}'"
      | [] =>
        let takes := if s.optional = 0 then counted most "positional argument"
          else s!"from {least} to {most} positional arguments"
        let gives := if s.byName = 0 then toString given
          else
            let extra := counted s.byName "keyword-only argument"
            s!"{given} positional arguments (and {extra})"
        some s!"{s.name}() takes {takes} but {gives} were given"

/-- An argument is of a wrong kind. -/
def wrong (text : String) : Fault := .misused .argument text

/-- A function of dictionaries is applied to something else. -/
def unsuited (name : String) (f : Found) : Fault :=
  wrong s!"\x60{name}\x60 cannot be applied to objects of type: {f.word}"

/-- A function of keys is applied to something that is no text. -/
def textless (name : String) (f : Found) : Fault :=
  f.shown fun text =>
    wrong (s!"\x60{name}\x60 requires a string as input, but obtained \x60{text}\x60 " ++
      s!"of type: {f.word}")

/-- Something that is no text is to be read. -/
def undecodable (f : Found) : Fault :=
  f.shown fun text =>
    wrong (s!"\x60oc.decode\x60 can only take strings or None as input, but \x60{text}\x60 " ++
      s!"is of type {f.word}")

/-- A key or a message that is no text. -/
def notText (role : String) (f : Found) : Fault :=
  wrong s!"oc.deprecated: interpolation {role} type is not a string ({f.word})"

/-- The number of arguments fits a function. -/
def checkCount (name : String) (given : Nat) : Except Fault Unit :=
  match signatures.lookup name with
  | none => .error (.unknownFunction name)
  | some s =>
    match s.complaint? given with
    | some text => .error (wrong text)
    | none => .ok ()

/-! ### Results -/

variable (p : Loader)

/-- A variable of the environment; `fallback` is given for the case that there is none, as a
    text or null. -/
def environment (name : Found) (fallback : Option Found) : Except Fault Found :=
  match name.value with
  | .scalar (.str s) =>
    match p.environment? s, fallback with
    | some text, _ => .ok (Found.ofScalar (.str text))
    | none, some f =>
      match f.value with
      | .scalar .null => .ok { f with home := none, held := false }
      | _ => f.text.map fun text => Found.ofScalar (.str text)
    | none, none =>
      .error (.misused .name (Text.Quoted.encode s!"Environment variable '{s}' not found"))
  | _ => .error (wrong s!"str expected, not {name.word}")

/-- A collection on its own in a collection at a site. -/
def created (around : Site) (v : Value) : Except Fault Found := do
  match holderOf? v with
  | some h => Holding.checkWhole p (⟨h, none⟩ :: around) v
  | none => pure ()
  return { value := v, held := true }

/-- A collection, which may be given as a text; `around` is the site of what holds it. -/
def creation (around : Site) (f : Found) : Except Fault Found :=
  match f.value with
  | .scalar .null => .ok f
  | .scalar (.str s) =>
    match Yaml.Value.read p.copies s with
    | .ok (.scalar .null) => created p around (.dict [])
    | .ok (.scalar (.str s)) => created p around (.dict [(.str s, .scalar .null)])
    | .ok v => if isCollection v then created p around v else .error (.misused .condition "")
    | .error e => .error (.unreadable s e)
  | v =>
    if isCollection v then created p around v
    else .error ((Fault.noObject f.word).place {
      fullKey := "", holder := none, key := "None", keyWord := "NoneType"
      value := text? f.held v, valueWord := f.word })

/-- A value converted to the kind of a name. -/
def coercion (kind : Found) (f : Found) : Except Fault Found := do
  let name ← kind.text
  match Target.ofWord? name with
  | none => throw (.misused .value s!"Invalid oc.coerce type: '{name}'")
  | some t =>
    match t.convert? f.value, t, f.value with
    | some s, _, _ => return Found.ofScalar s
    | none, _, .scalar .null => throw (.missing t)
    | none, .float, .scalar (.int _) =>
      throw (.misused .range "int too large to convert to float")
    | none, .field .text, .scalar (.int _) => throw .overlong
    | none, _, _ => throw (.unsuitable t)

/-- What is written for the entries of a dictionary at a key: a reference to each. -/
def references (key : String) (es : Entries) : List Value :=
  let key := if key.startsWith "." then "." ++ key else key
  es.map fun e => .scalar (.str ("$\x7b" ++ key ++ "." ++ e.1.text?.getD "" ++ "\x7d"))

end Function

end Chip8.Settings
