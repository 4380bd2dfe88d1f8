/-
  Chip8/Text/Cut.lean
  ===================
  **Cutting a text** at every occurrence of a character.

  A text with n such characters has n + 1 parts, some of which may be empty, and
  putting the character between the parts gives the text back.
-/
namespace Chip8.Text

/-- The parts of a text between the occurrences of a character. -/
def cut (sep : Char) : List Char → List (List Char)
  | [] => [[]]
  | c :: r =>
    match cut sep r with
    | part :: parts => if c = sep then [] :: part :: parts else (c :: part) :: parts
    | [] => [[c]]

theorem cut_ne_nil (sep : Char) (s : List Char) : cut sep s ≠ [] := by
  cases s with
  | nil => simp [cut]
  | cons c r =>
    rw [cut]
    split
    · split <;> simp
    · simp

/-- A text without the character is its only part. -/
theorem cut_eq_singleton {sep : Char} {s : List Char} (h : sep ∉ s) : cut sep s = [s] := by
  induction s with
  | nil => rfl
  | cons c r ih =>
    rw [List.mem_cons, not_or] at h
    rw [cut, ih h.2]
    simp [Ne.symm h.1]

end Chip8.Text
