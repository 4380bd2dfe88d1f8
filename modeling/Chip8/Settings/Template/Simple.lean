/-
  Chip8/Settings/Template/Simple.lean
  ===================================
  **Texts that come close to a template** — every opening is closed after a key or the
  call of a function of a simple form.

  Such a text is held without a closer look until its value is asked for; not every
  such text is a template.
-/
import Chip8.Text.Cut

namespace Chip8.Settings.Template

open Chip8.Text (cut)

/-- A blank of any kind. -/
def isSpace (c : Char) : Bool := c == ' ' || ('\t' ≤ c && c ≤ '\r')

/-- Drop the blanks at both ends. -/
def trim (s : List Char) : List Char :=
  ((s.dropWhile isSpace).reverse.dropWhile isSpace).reverse

/-- Parts of a key, each after a point or in brackets.  Fuel bounds their number. -/
def areParts : (fuel : Nat) → List Char → Bool
  | 0, s => s.isEmpty
  | _ + 1, [] => true
  | fuel + 1, c :: r =>
    let word := r.takeWhile fun c => c.isAlphanum || c == '_' || c == '$'
    let after := r.drop word.length
    if word.isEmpty then false
    else if c == '.' then areParts fuel after
    else if c == '[' then after.head? == some ']' && areParts fuel after.tail
    else false

/-- A key of letters, digits, low lines and dollar signs. -/
def isKey (s : List Char) : Bool :=
  let s := s.dropWhile (· == '.')
  areParts (s.length + 1) (if s.head? == some '[' then s else '.' :: s)

/-- A name of letters, digits and low lines. -/
def isWord (s : List Char) : Bool :=
  s.head?.any (fun c => c.isAlpha || c == '_') && s.all fun c => c.isAlphanum || c == '_'

/-- An argument without quotation marks. -/
def isArgument (s : List Char) : Bool :=
  !s.isEmpty && s.all fun c => c.isAlphanum || "_/-+.$%*@?|".toList.contains c

/-- A function, whose name may be missing, with such arguments. -/
def isCall (s : List Char) : Bool :=
  let name := trim (s.takeWhile (· != ':'))
  let arguments := (s.dropWhile (· != ':')).drop 1
  s.contains ':' && (name.isEmpty || (cut '.' name).all isWord) &&
    (cut ',' arguments).all fun a => isArgument (trim a)

/-- Every opening in a text is closed after a key or a function of a simple form,
    with blanks of any kind; `inside` holds what was read since, in reverse. -/
def isSimpleFrom : (inside : Option (List Char)) → List Char → Bool
  | none, [] => true
  | some _, [] => false
  | none, '$' :: '\x7b' :: r => isSimpleFrom (some []) r
  | none, _ :: r => isSimpleFrom none r
  | some seen, c :: r =>
    if c = '\x7d' then
      (isKey (trim seen.reverse) || isCall (trim seen.reverse)) && isSimpleFrom none r
    else isSimpleFrom (some (c :: seen)) r

/-- A text whose openings look well at first sight.  Not every such text is a
    template. -/
def isSimple (s : List Char) : Bool := isSimpleFrom none s

end Chip8.Settings.Template
