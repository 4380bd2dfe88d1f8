/-
  Chip8/Cells.lean
  ================
  **Fixed stores of cells** — memory, registers, screen and call stack are all
  vectors of a known length, and one rule says what an index outside such a
  vector means: a read takes the nearest cell, a write is lost.

  With this rule no access can fail, so instructions need no error path of
  their own; the checks that do fail stand in front of an instruction.
-/
namespace Chip8.Cells

variable {α : Type} {n : Nat}

/-- Read a cell; an index past the end reads the last cell. -/
def read (v : Vector α (n + 1)) (i : Nat) : α := v[min i n]

/-- Write a cell; a write past the end is lost. -/
def write (v : Vector α n) (i : Nat) (a : α) : Vector α n := v.setIfInBounds i a

/-- Write consecutive cells from `i` on, each by the rule of `write`. -/
def writeAll (v : Vector α n) (i : Nat) : List α → Vector α n
  | [] => v
  | a :: as => writeAll (write v i a) (i + 1) as

/-! ### What a write shows to a read -/

theorem read_of_lt (v : Vector α (n + 1)) {i : Nat} (h : i < n + 1) : read v i = v[i] := by
  have : min i n = i := by omega
  simp only [read, this]

theorem read_of_ge (v : Vector α (n + 1)) {i : Nat} (h : n ≤ i) : read v i = v[n] := by
  have : min i n = n := by omega
  simp only [read, this]

theorem getElem_write (v : Vector α n) (i j : Nat) (a : α) (hj : j < n) :
    (write v i a)[j] = if i = j then a else v[j] := by
  simp only [write, Vector.getElem_setIfInBounds hj]

theorem write_of_ge (v : Vector α n) {i : Nat} (a : α) (h : n ≤ i) : write v i a = v := by
  ext j hj
  rw [getElem_write, if_neg (by omega)]

theorem getElem_writeAll (v : Vector α n) (i j : Nat) (as : List α) (hj : j < n) :
    (writeAll v i as)[j] = if i ≤ j then as.getD (j - i) v[j] else v[j] := by
  induction as generalizing v i with
  | nil => simp [writeAll]
  | cons a as ih =>
    rw [writeAll, ih, getElem_write]
    by_cases h : i = j
    · subst h
      rw [if_neg (by omega), if_pos rfl, if_pos (Nat.le_refl i), Nat.sub_self, List.getD_cons_zero]
    · by_cases hij : i ≤ j
      · have : j - i = (j - (i + 1)) + 1 := by omega
        rw [if_pos (by omega), if_pos hij, if_neg h, this, List.getD_cons_succ]
      · rw [if_neg (by omega), if_neg hij, if_neg h]

end Chip8.Cells
