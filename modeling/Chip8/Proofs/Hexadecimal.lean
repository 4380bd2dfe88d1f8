/-
  Chip8/Proofs/Hexadecimal.lean
  =============================
  **Hexadecimal text is exact** — the padded text of an integer is a sign and places, its places
  are read back as the size of the integer, and so two integers of one text are the same.
-/
import Chip8.Proofs.Numerals
import Chip8.Text.Cut
import Chip8.Text.Hex

namespace Chip8.Text

/-- Take one more hexadecimal digit. -/
def hexPush (n : Nat) (c : Char) : Option Nat :=
  (hexDigitValue? c).bind fun d => if d < 16 then some (16 * n + d) else none

namespace Hex

variable {n width : Nat} {c : Char}

/-! ### Digits -/

/-- The character of a digit. -/
def digit (d : Nat) : Char := d.digitChar.toUpper

theorem hexPush_digit (n : Nat) {d : Nat} (h : d < 16) :
    hexPush n (digit d) = some (16 * n + d) := by
  have hvalue : ∀ d < 16, hexDigitValue? (digit d) = some d := by decide
  rw [hexPush, hvalue d h, Option.bind_some, if_pos h]

theorem digits_of_lt (h : n < 16) : digits n = [digit n] := by
  rw [digits, Nat.toDigits_of_lt_base h]
  rfl

theorem digits_of_ge (h : 16 ≤ n) : digits n = digits (n / 16) ++ [digit (n % 16)] := by
  rw [digits, Nat.toDigits_of_base_le (by decide) h, List.map_append]
  rfl

theorem foldlM_digits (n : Nat) : (digits n).foldlM hexPush 0 = some n := by
  induction n using Nat.strong_induction_on with
  | _ n ih =>
    obtain hsmall | hlarge := Nat.lt_or_ge n 16
    · rw [digits_of_lt hsmall]
      simpa using hexPush_digit 0 hsmall
    · have hlast : n % 16 < 16 := Nat.mod_lt n (by decide)
      have hvalue : 16 * (n / 16) + n % 16 = n := by omega
      rw [digits_of_ge hlarge, List.foldlM_append, ih (n / 16) (by omega)]
      simpa [hvalue] using hexPush_digit (n / 16) hlast

theorem foldlM_zeros (k : Nat) : (List.replicate k '0').foldlM hexPush 0 = some 0 := by
  induction k with
  | zero => rfl
  | succ k ih =>
    rw [List.replicate_succ, List.foldlM_cons]
    exact ih

theorem exists_digit_of_mem (h : c ∈ digits n) : ∃ d < 16, c = digit d := by
  induction n using Nat.strong_induction_on with
  | _ n ih =>
    obtain hsmall | hlarge := Nat.lt_or_ge n 16
    · rw [digits_of_lt hsmall, List.mem_singleton] at h
      exact ⟨n, hsmall, h⟩
    · rw [digits_of_ge hlarge, List.mem_append, List.mem_singleton] at h
      rcases h with h | h
      · exact ih (n / 16) (by omega) h
      · exact ⟨n % 16, Nat.mod_lt n (by decide), h⟩

/-! ### Padded text -/

/-- The text of an integer without its sign. -/
def places (width : Nat) (i : Int) : List Char :=
  List.replicate (width - ((if i < 0 then 1 else 0) + (digits i.natAbs).length)) '0' ++
    digits i.natAbs

theorem toList_padded (width : Nat) (i : Int) :
    (padded width i).toList = (if i < 0 then ['-'] else []) ++ places width i := by
  rw [padded, String.toList_ofList, List.append_assoc, places]
  split <;> rfl

theorem exists_digit_of_mem_places {i : Int} (h : c ∈ places width i) : ∃ d < 16, c = digit d := by
  rcases List.mem_append.1 h with h | h
  · exact ⟨0, by decide, List.eq_of_mem_replicate h⟩
  · exact exists_digit_of_mem h

theorem readDigitsIn?_places (width : Nat) (i : Int) :
    readDigitsIn? 16 (places width i) = some i.natAbs := by
  have hfold : (places width i).foldlM hexPush 0 = some i.natAbs := by
    rw [places, List.foldlM_append, foldlM_zeros]
    exact foldlM_digits i.natAbs
  cases hplaces : places width i with
  | nil => simp [places, digits, Nat.toDigits_ne_nil] at hplaces
  | cons c r =>
    rw [hplaces] at hfold
    exact hfold

theorem splitSign_padded (width : Nat) (i : Int) :
    splitSign (padded width i).toList = (decide (i < 0), places width i) := by
  rw [toList_padded]
  by_cases hneg : i < 0
  · rw [if_pos hneg, decide_eq_true hneg]
    rfl
  · rw [if_neg hneg, decide_eq_false hneg, List.nil_append]
    have hsign : ∀ d < 16, digit d ≠ '-' ∧ digit d ≠ '+' := by decide
    unfold splitSign
    split
    · next hplaces =>
      obtain ⟨d, hd, hc⟩ := exists_digit_of_mem_places (hplaces ▸ List.mem_cons_self ..)
      exact absurd hc.symm (hsign d hd).1
    · next hplaces =>
      obtain ⟨d, hd, hc⟩ := exists_digit_of_mem_places (hplaces ▸ List.mem_cons_self ..)
      exact absurd hc.symm (hsign d hd).2
    · rfl

/-- The text of an integer determines it: its sign, and by its places its size. -/
theorem padded_injective {i j : Int} (h : padded width i = padded width j) : i = j := by
  have hsplit := splitSign_padded width i
  rw [h, splitSign_padded, Prod.mk.injEq] at hsplit
  obtain ⟨hsign, hplaces⟩ := hsplit
  have hsize : i.natAbs = j.natAbs := by
    have hread := readDigitsIn?_places width i
    rw [← hplaces, readDigitsIn?_places] at hread
    exact (Option.some.inj hread).symm
  rw [decide_eq_decide] at hsign
  omega

theorem blank_not_mem_padded (width : Nat) (i : Int) : ' ' ∉ (padded width i).toList := by
  have hblank : ∀ d < 16, digit d ≠ ' ' := by decide
  rw [toList_padded]
  intro h
  rcases List.mem_append.1 h with h | h
  · split at h <;> simp at h
  · obtain ⟨d, hd, hc⟩ := exists_digit_of_mem_places h
    exact hblank d hd hc.symm

end Hex

/-- A text before the first occurrence of a character is a part of its own. -/
theorem cut_append_cons {sep : Char} {s : List Char} (h : sep ∉ s) (r : List Char) :
    cut sep (s ++ sep :: r) = s :: cut sep r := by
  induction s with
  | nil =>
    rw [List.nil_append, cut]
    cases hcut : cut sep r with
    | nil => exact absurd hcut (cut_ne_nil sep r)
    | cons part parts => simp
  | cons c s ih =>
    rw [List.mem_cons, not_or] at h
    rw [List.cons_append, cut, ih h.2]
    simp [Ne.symm h.1]

end Chip8.Text
