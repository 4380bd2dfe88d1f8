/-
  Chip8/Text/Placeholder.lean
  ===========================
  **Placeholders** — names after a dollar sign, with or without braces, for which
  texts are put in; two dollar signs stand for one.

  A dollar sign before anything else is left as it is, also before a name that no
  text is known for.
-/
namespace Chip8.Text.Placeholder

/-- A letter or a low line. -/
def startsName (c : Char) : Bool := c.isAlpha || c == '_'

/-- The name at the start of a text; empty if there is none. -/
def name (s : List Char) : List Char :=
  if s.head?.any startsName then s.takeWhile fun c => c.isAlphanum || c == '_' else []

/-- The name that stands after a dollar sign, and what follows it. -/
def name? (s : List Char) : Option (String × List Char) :=
  match s with
  | '\x7b' :: r =>
    let n := name r
    match r.drop n.length with
    | '\x7d' :: rest => if n.isEmpty then none else some (String.ofList n, rest)
    | _ => none
  | _ =>
    let n := name s
    if n.isEmpty then none else some (String.ofList n, s.drop n.length)

/-- Put texts in for names; the result is `none` if a name that is used stands for a
    value that has no text.  Fuel bounds the number of characters. -/
def fillFrom (value? : String → Option (Option String)) :
    (fuel : Nat) → List Char → Option (List Char)
  | 0, s => some s
  | _ + 1, [] => some []
  | fuel + 1, '$' :: '$' :: r => (fillFrom value? fuel r).map ('$' :: ·)
  | fuel + 1, '$' :: r =>
    match (name? r).bind fun (n, rest) => (value? n).map fun v => (v, rest) with
    | some (v, rest) => v.bind fun v => (fillFrom value? fuel rest).map (v.toList ++ ·)
    | none => (fillFrom value? fuel r).map ('$' :: ·)
  | fuel + 1, c :: r => (fillFrom value? fuel r).map (c :: ·)

/-- A text with texts put in for the names in it. -/
def fill (value? : String → Option (Option String)) (s : String) : Option String :=
  (fillFrom value? (s.length + 1) s.toList).map String.ofList

example : fill (fun _ => some (some "x")) "a$b$$$\x7bc\x7dd$\x7b e$" = some "ax$xd$\x7b e$" := by
  decide +kernel

end Chip8.Text.Placeholder
