/-
  Chip8/Settings/Key.lean
  =======================
  **Keys** — the way to a value through nested collections: names after points
  or in brackets.

  A backslash before a point, a bracket or another special character makes it a part
  of a name.  A key without points and brackets is one name (`parts_of_flat`).
-/
namespace Chip8.Settings.Key

/-- A character of a key, and whether it is a part of a name whatever it is. -/
abbrev Mark := Char × Bool

/-- The characters that a backslash makes a part of a name. -/
def isSpecial (c : Char) : Bool := "\\.[]\x7b\x7d():=, \t'\"".toList.contains c

/-- The characters of a key; a backslash is dropped before a special one. -/
def marks : List Char → List Mark
  | [] => []
  | [c] => [(c, false)]
  | c :: d :: r =>
    if c = '\\' ∧ isSpecial d then (d, true) :: marks r else (c, false) :: marks (d :: r)

/-- A character of a part of a key. -/
def isName (m : Mark) : Bool := m.2 || (m.1 != '.' && m.1 != '[')

/-- The characters after a bracket up to the one that closes it. -/
def bracketed (r : List Mark) : List Mark := r.takeWhile (· != (']', false))

/-- A bracket that was just opened is closed, in a key without backslashes on the same
    line. -/
def closes (slashed : Bool) (r : List Mark) : Bool :=
  let inside := bracketed r
  inside.length < r.length && (slashed || !inside.contains ('\n', false))

/-- The parts of a key after its first: each follows a point or stands in brackets.
    What else stands after a bracket is passed over, and in a key with backslashes
    it ends the key.  Fuel bounds the number of characters. -/
def laterParts (slashed : Bool) : (fuel : Nat) → List Mark → List (List Mark)
  | 0, _ => []
  | _ + 1, [] => []
  | fuel + 1, m :: r =>
    if m = ('.', false) then r.takeWhile isName :: laterParts slashed fuel (r.dropWhile isName)
    else if m = ('[', false) && closes slashed r then
      bracketed r :: laterParts slashed fuel (r.drop ((bracketed r).length + 1))
    else if slashed then []
    else laterParts slashed fuel r

/-- The parts of a key: an empty one for each point at its start, then the text up
    to the next point or bracket, which may be missing before a bracket. -/
def markedParts (slashed : Bool) (key : List Mark) : List (List Mark) :=
  let points := key.takeWhile (· == ('.', false))
  let body := key.dropWhile (· == ('.', false))
  let first := body.takeWhile isName
  let rest := body.dropWhile isName
  points.map (fun _ => []) ++ (if first.isEmpty && !rest.isEmpty then [] else [first]) ++
    laterParts slashed rest.length rest

/-- The names that a key leads through. -/
def parts (key : List Char) : List String :=
  (markedParts (key.contains '\\') (marks key)).map fun p => String.ofList (p.map Prod.fst)

/-! ### Keys of one part -/

/-- A character without a meaning of its own in keys. -/
def isOrdinary (c : Char) : Bool := c != '.' && c != '[' && c != '\\'

theorem marks_of_ordinary {key : List Char} (h : key.all isOrdinary = true) :
    marks key = key.map fun c => (c, false) := by
  induction key with
  | nil => rfl
  | cons c r ih =>
    rw [List.all_cons, Bool.and_eq_true] at h
    have hc : c ≠ '\\' := by
      have := h.1
      simp [isOrdinary] at this
      exact this.2
    cases r with
    | nil => rfl
    | cons d r =>
      rw [marks, if_neg (by simp [hc]), ih h.2]
      rfl

theorem span_of_all {α : Type} {p : α → Bool} {s : List α} (h : s.all p = true) :
    s.takeWhile p = s ∧ s.dropWhile p = [] := by
  induction s with
  | nil => exact ⟨rfl, rfl⟩
  | cons c r ih =>
    rw [List.all_cons, Bool.and_eq_true] at h
    simp [h.1, ih h.2]

variable {key : List Char}

/-- The name that a key without points and brackets stands for. -/
def name (key : List Char) : String := String.ofList ((marks key).map Prod.fst)

theorem name_of_ordinary (h : key.all isOrdinary = true) : name key = String.ofList key := by
  rw [name, marks_of_ordinary h, List.map_map]
  exact congrArg String.ofList (List.map_id key)

theorem fst_mem_of_mem_marks {m : Mark} (h : m ∈ marks key) : m.1 ∈ key := by
  fun_induction marks key with
  | case1 => cases h
  | case2 c =>
    rw [List.mem_singleton.1 h]
    exact List.mem_singleton_self c
  | case3 c d r hescaped ih =>
    rcases List.mem_cons.1 h with rfl | h
    · exact .tail _ (.head _)
    · exact .tail _ (.tail _ (ih h))
  | case4 c d r hordinary ih =>
    rcases List.mem_cons.1 h with rfl | h
    · exact .head _
    · exact .tail _ (ih h)

/-- A key without points and brackets has one part. -/
theorem parts_of_flat (h : ∀ c ∈ key, c ≠ '.' ∧ c ≠ '[') : parts key = [name key] := by
  have hchar : ∀ m ∈ marks key, m.1 ≠ '.' ∧ m.1 ≠ '[' := fun m hm => h _ (fst_mem_of_mem_marks hm)
  have hname : (marks key).all isName = true := by
    rw [List.all_eq_true]
    intro m hm
    simp [isName, hchar m hm]
  have hpoint : (marks key).takeWhile (· == ('.', false)) = [] ∧
      (marks key).dropWhile (· == ('.', false)) = marks key := by
    cases hcons : marks key with
    | nil => exact ⟨rfl, rfl⟩
    | cons m r =>
      have hm : (m == ('.', false)) = false := by
        rw [beq_eq_false_iff_ne]
        rintro rfl
        exact (hchar ('.', false) (hcons ▸ List.mem_cons_self)).1 rfl
      simp [hm]
  simp [parts, markedParts, hpoint.1, hpoint.2, (span_of_all hname).1, (span_of_all hname).2,
    laterParts, name]

end Chip8.Settings.Key
