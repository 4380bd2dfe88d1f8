/-
  Chip8/Yaml/Scalar.lean
  ======================
  **Values of scalars** — what the text of a scalar means under its tag.

  A tag that its text does not fit is an error whose kind depends on the tag.
  Numbers of base sixty add their groups up from the last one on.
-/
import Chip8.Text.Base64
import Chip8.Text.Quoted
import Chip8.Yaml.Tag
import Chip8.Yaml.Timestamp

namespace Chip8.Yaml

open Chip8.Text (cut splitSign withSign)

/-- The value of a scalar. -/
inductive Scalar where
  | null
  | bool (b : Bool)
  | int (i : Int)
  | float (x : Float)
  | str (s : String)
  | bytes (bs : List UInt8)
  /-- A day; which one is never asked for. -/
  | date
  /-- A time of a day. -/
  | moment

namespace Scalar

/-! ### Integers -/

/-- What a reader of numbers finds, or what is wrong. -/
def orBad {α : Type} (x : Option α) (problem : String) : Except Error α :=
  match x with
  | some a => .ok a
  | none => .error (.badNumber problem)

/-- What is wrong with a text that is no integer. -/
def noInt (base : Nat) (s : List Char) : String :=
  let literal := Text.Quoted.encode (String.ofList s)
  s!"invalid literal for int() with base {base}: {literal}"

/-- An integer in decimal digits. -/
def decimalInt (s : List Char) : Except Error Int :=
  let digits := s.countP Char.isDigit
  orBad (Text.readInt? s) <|
    if digits ≤ Text.digitLimit then noInt 10 s
    else
      s!"Exceeds the limit ({Text.digitLimit} digits) for integer string conversion: value has " ++
        s!"{digits} digits; use sys.set_int_max_str_digits() to increase the limit"

/-- An integer of base sixty; its groups are integers themselves. -/
def sixtyInt (s : List Char) : Except Error Int := do
  let groups ← (cut ':' s).mapM decimalInt
  return groups.foldl (fun n g => 60 * n + g) 0

/-- An integer after its sign: a leading zero announces a base. -/
def intBody : List Char → Except Error Int
  | [] => .error .emptyNumber
  | ['0'] => .ok 0
  | '0' :: 'b' :: r => orBad (Text.readIntIn? 2 'b' r) (noInt 2 r)
  | '0' :: 'x' :: r => orBad (Text.readIntIn? 16 'x' r) (noInt 16 r)
  | '0' :: r => orBad (Text.readIntIn? 8 'o' ('0' :: r)) (noInt 8 ('0' :: r))
  | s => if s.contains ':' then sixtyInt s else decimalInt s

/-- The integer that a text writes. -/
def readInt (text : String) : Except Error Int :=
  match text.toList.filter (· != '_') with
  | [] => .error .emptyNumber
  | s =>
    let (negative, body) := splitSign s
    (intBody body).map fun i => if negative then -i else i

/-! ### Numbers with a fraction -/

/-- Add up groups, the last one first, each times its power of sixty. -/
def addGroups (total : Float) (power : Nat) : List Float → Except Error Float
  | [] => .ok total
  | x :: r =>
    match Text.Decimal.ofInt? power with
    | none => .error .tooLarge
    | some base => addGroups (total + x * base) (60 * power) r

/-- A number with a fraction or an exponent in decimal digits. -/
def decimalFloat (s : List Char) : Except Error Float :=
  orBad (Text.readFloat? s)
    ("could not convert string to float: " ++ Text.Quoted.encode (String.ofList s))

/-- A number of base sixty. -/
def sixtyFloat (s : List Char) : Except Error Float := do
  let groups ← (cut ':' s).mapM decimalFloat
  addGroups 0.0 1 groups.reverse

/-- A number after its sign. -/
def floatBody (s : List Char) : Except Error Float :=
  if s = ".inf".toList then .ok (1.0 / 0.0)
  else if s = ".nan".toList then .ok (0.0 / 0.0)
  else if s.contains ':' then sixtyFloat s
  else decimalFloat s

/-- The number that a text writes, in letters of any size. -/
def readFloat (text : String) : Except Error Float :=
  match (text.toList.filter (· != '_')).map Char.toLower with
  | [] => .error .emptyNumber
  | s =>
    let (negative, body) := splitSign s
    (floatBody body).map (Text.Decimal.negateIf negative)

/-! ### Other kinds -/

/-- The words for truth values, in small letters. -/
def flagWords : List (String × Bool) :=
  [("yes", true), ("no", false), ("true", true), ("false", false), ("on", true), ("off", false)]

/-- The truth value of a word in letters of any size. -/
def readFlag (text : String) : Except Error Bool :=
  match flagWords.lookup text.toLower with
  | some b => .ok b
  | none => .error (.badFlag text.toLower)

/-- A character of the smallest alphabet. -/
def isPlainCode (c : Char) : Bool := c.toNat < 0x80

/-- What is wrong with a text of bytes that has other characters than those of the
    smallest alphabet: the first of them, with those that follow it at once. -/
def strangeBytes (s : List Char) : String :=
  let (before, rest) := s.span isPlainCode
  let place := before.length
  let found := match rest.takeWhile (!isPlainCode ·) with
    | [c] =>
      let shown := String.ofList (Text.Quoted.numbered c)
      s!"character '{shown}' in position {place}"
    | cs =>
      let last := place + cs.length - 1
      s!"characters in position {place}-{last}"
  s!"failed to convert base64 data into ascii: 'ascii' codec can't encode {found}: " ++
    "ordinal not in range(128)"

/-- What is wrong with a text of bytes whose last four characters are not full. -/
def unfinishedBytes (s : List Char) : String :=
  let count := Text.Base64.count s
  let problem :=
    if count % 4 = 1 then
      s!"Invalid base64-encoded string: number of data characters ({count}) cannot be 1 more " ++
        "than a multiple of 4"
    else "Incorrect padding"
  "failed to decode base64 data: " ++ problem

/-- The bytes of a text at a place. -/
def readBytes (place : Place) (text : String) : Except Error (List UInt8) :=
  let s := text.toList
  if !s.all isPlainCode then .error (.noValue { problem := strangeBytes s, place })
  else match Text.Base64.decode s with
    | some bs => .ok bs
    | none => .error (.noValue { problem := unfinishedBytes s, place })

/-- The kind of timestamp that a text writes. -/
def readTimestamp (text : String) : Except Error Scalar :=
  match Timestamp.ofText? text.toList with
  | none => .error .badDate
  | some t =>
    match t.problem? with
    | some problem => .error (.badNumber problem)
    | none => .ok (if t.time.isNone then date else moment)

/-- The value of a text under a tag, at a place; the tags of collections have none. -/
def ofText (place : Place) (tag : Tag) (text : String) : Except Error Scalar :=
  match tag with
  | .null => .ok null
  | .bool => (readFlag text).map bool
  | .int => (readInt text).map int
  | .float => (readFloat text).map float
  | .str => .ok (str text)
  | .binary => (readBytes place text).map bytes
  | .timestamp => readTimestamp text
  | tag =>
    let name := Text.Quoted.encode tag.fullName
    let problem := s!"could not determine a constructor for the tag {name}"
    .error (.noValue { problem, place })

/-- The value of a plain scalar that is all of a text. -/
def ofPlain (text : String) : Except Error Scalar :=
  ofText (.before text.length) (Tag.ofPlain text) text

/-- Whether a text is a single plain word: letters, digits and low lines after an
    optional sign. -/
def isPlainWord (s : List Char) : Bool :=
  Tag.allOf (fun c => c.isAlphanum || c == '_') (splitSign s).2

/-! ### Text -/

/-- The text of a value where a text is asked for; integers have none if it would be
    too long. -/
def text? : Scalar → Option String
  | null => some "None"
  | bool true => some "True"
  | bool false => some "False"
  | int i => Text.intText? i
  | float x => some (Text.Decimal.shortest x)
  | str s => some s
  | bytes bs => some (Text.Quoted.encodeBytes bs)
  | date | moment => none

/-- The text of a value inside a collection: texts are quoted there. -/
def quoted? : Scalar → Option String
  | str s => some (Text.Quoted.encode s)
  | s => s.text?

/-- The name of the kind of a scalar. -/
def kindWord : Scalar → String
  | null => "NoneType"
  | bool _ => "bool"
  | int _ => "int"
  | float _ => "float"
  | str _ => "str"
  | bytes _ => "bytes"
  | date => "date"
  | moment => "datetime"

/-! ### Equality of keys -/

/-- A number as a quotient: truth values count as one and zero. -/
def quotient? : Scalar → Option (Int × Nat)
  | bool b => some (b.toNat, 1)
  | int i => some (i, 1)
  | float x =>
    match Text.Decimal.Exact.ofFloat x with
    | .finite negative m e =>
      some (withSign negative (m * Nat.pow 2 e.toNat), Nat.pow 2 (-e).toNat)
    | _ => none
  | _ => none

/-- Two scalars are the same key: numbers by their value, infinities by their bits,
    all else by its content. -/
def sameKey (a b : Scalar) : Bool :=
  match a.quotient?, b.quotient? with
  | some (m, d), some (n, e) => m * e == n * d
  | none, none =>
    match a, b with
    | null, null => true
    | float x, float y => x == y
    | str s, str t => s == t
    | bytes s, bytes t => s == t
    | _, _ => false
  | _, _ => false

/-- Texts are the same key if they are equal. -/
theorem sameKey_str (s t : String) : (str s).sameKey (str t) = (s == t) := rfl

end Scalar

end Chip8.Yaml
