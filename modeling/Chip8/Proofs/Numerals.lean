/-
  Chip8/Proofs/Numerals.lean
  ==========================
  **Integers as other numbers and as text** — an integer that is not too large has a number
  with a fraction nearest to it, and its decimal digits are read back as that integer.
-/
import Mathlib.Algebra.Group.Nat.Defs
import Mathlib.Data.List.Basic
import Mathlib.Tactic.Convert
import Mathlib.Order.Lattice
import Chip8.Settings.Field

namespace Chip8.Text

/-! ### Nearest numbers -/

namespace Decimal

theorem roundDiv_le {num den k : Nat} (h : num < k * den) : roundDiv num den ≤ k := by
  have hquotient : num / den < k := Nat.div_lt_of_lt_mul (by rwa [Nat.mul_comm])
  unfold roundDiv
  dsimp only
  split
  · omega
  · split <;> omega

/-- In units of the last of 53 binary digits, a number stays below the next power of two. -/
theorem inUnits_lt {n k : Nat} (h : n < 2 ^ (k + 1)) :
    n * Nat.pow 2 (-((k : Int) - 52)).toNat <
      2 * exponentUnit * Nat.pow 2 ((k : Int) - 52).toNat := by
  have hunit : 2 * exponentUnit = 2 ^ 53 := rfl
  rw [hunit]
  simp only [Nat.pow_eq]
  obtain hk | hk := Nat.le_total k 52
  · have hsum : 2 ^ 53 * 2 ^ ((k : Int) - 52).toNat =
        2 ^ (k + 1) * 2 ^ (-((k : Int) - 52)).toNat := by
      rw [← Nat.pow_add, ← Nat.pow_add]
      congr 1
      omega
    rw [hsum]
    exact Nat.mul_lt_mul_of_pos_right h (Nat.two_pow_pos _)
  · have hzero : (-((k : Int) - 52)).toNat = 0 := by omega
    have hsum : 2 ^ 53 * 2 ^ ((k : Int) - 52).toNat = 2 ^ (k + 1) := by
      rw [← Nat.pow_add]
      congr 1
      omega
    rwa [hzero, hsum, Nat.pow_zero, Nat.mul_one]

theorem nearestBits_lt {n : Nat} (h : n.log2 < 1023) : nearestBits n 1 < infinityBits := by
  unfold nearestBits
  split
  · decide
  · have hunits := inUnits_lt (Nat.lt_log2_self (n := n))
    have hone : Nat.log2 1 = 0 := by decide
    simp only [hone, Nat.one_mul]
    generalize n.log2 = k at *
    -- The unit is chosen so that 53 binary digits are left, or one unit below.
    have bound : ∀ e : Int, e ≤ (k : Int) - 52 → -1074 ≤ e →
        n * Nat.pow 2 (-e).toNat < 2 * exponentUnit * Nat.pow 2 e.toNat →
        (max e (-1074) + 1074).toNat * exponentUnit +
          roundDiv (n * Nat.pow 2 (-(max e (-1074))).toNat) (Nat.pow 2 (max e (-1074)).toNat) <
            infinityBits := by
      intro e he hleast hbelow
      rw [max_eq_left hleast]
      have hround := roundDiv_le hbelow
      have hexponent : (e + 1074).toNat * exponentUnit ≤ 2044 * exponentUnit :=
        Nat.mul_le_mul_right _ (by omega)
      have hlimit : infinityBits = 2047 * exponentUnit := rfl
      have hunit : 0 < exponentUnit := by decide
      omega
    split
    · exact bound _ (by omega) (by omega) (by convert hunits using 4 <;> omega)
    · next hbelow => exact bound _ (by omega) (by omega) (by simpa using hbelow)

/-- The number nearest to an integer of fewer than 1024 binary digits is not infinite. -/
theorem isSome_ofInt? {i : Int} (h : i.natAbs.log2 < 1023) : (ofInt? i).isSome := by
  unfold ofInt? ofQuotient?
  dsimp only
  rw [Int.natAbs_one, if_pos (nearestBits_lt h)]
  rfl

end Decimal

/-! ### Decimal digits -/

theorem digitValue?_of_isDigit {c : Char} (h : c.isDigit = true) :
    digitValue? c = some (c.toNat - '0'.toNat) := by
  obtain ⟨hlow, hhigh⟩ : 0x0030 ≤ c.toNat ∧ c.toNat ≤ 0x0039 := Char.isDigit_iff_toNat.1 h
  have hzeros : zeros = 0x0030 :: zeros.tail := rfl
  have hfirst : (0x0030 ≤ c.toNat && c.toNat < 0x0030 + 10) = true := by
    simp only [Bool.and_eq_true, decide_eq_true_eq]
    omega
  rw [digitValue?, hzeros, List.find?_cons, hfirst]
  rfl

theorem readDigits_of_all {ds : List Char} (h : ∀ c ∈ ds, c.isDigit = true) (acc : Nat) :
    readDigits acc ds = some (Nat.ofDigitChars 10 ds acc) := by
  induction ds generalizing acc with
  | nil => rfl
  | cons c ds ih =>
    obtain ⟨hc, hds⟩ := List.forall_mem_cons.1 h
    have hline : c ≠ '_' := by
      rintro rfl
      cases hc
    rw [readDigits.eq_3 _ _ _ (fun _ _ hc' _ => hline hc'), digitValue?_of_isDigit hc,
      Option.bind_some, ih hds]
    rfl

theorem trimSpaces_eq_self {s : List Char} (h : ∀ c ∈ s, isSpace c = false) : trimSpaces s = s := by
  have hdrop : ∀ t : List Char, (∀ c ∈ t, isSpace c = false) → t.dropWhile isSpace = t := by
    intro t ht
    cases t with
    | nil => rfl
    | cons c t => exact List.dropWhile_cons_of_neg (by simp [ht c List.mem_cons_self])
  rw [trimSpaces, hdrop s h, hdrop s.reverse fun c hc => h c (List.mem_reverse.1 hc),
    List.reverse_reverse]

theorem isSpace_of_isDigit {c : Char} (h : c.isDigit = true) : isSpace c = false := by
  obtain ⟨hlow, hhigh⟩ := Char.isDigit_iff_toNat.1 h
  simp only [isSpace]
  grind

theorem splitSign_of_isDigit {s : List Char} (h : ∀ c ∈ s.head?, c.isDigit = true) :
    splitSign s = (false, s) := by
  unfold splitSign
  split
  · cases h '-' rfl
  · cases h '+' rfl
  · rfl

theorem length_toDigits_le {n k : Nat} (hk : 0 < k) (h : n < Nat.pow 10 k) :
    (Nat.toDigits 10 n).length ≤ k :=
  (Nat.length_toDigits_le_iff (by decide) hk).2 h

/-- The digits of a natural number are read back as that number. -/
theorem readInt?_toDigits {n : Nat} (h : n < Nat.pow 10 digitLimit) :
    readInt? (Nat.toDigits 10 n) = some n := by
  have hdigits : ∀ c ∈ Nat.toDigits 10 n, c.isDigit = true := fun c hc =>
    Nat.isDigit_of_mem_toDigits (by decide) (by decide) hc
  have htrim : trimSpaces (Nat.toDigits 10 n) = Nat.toDigits 10 n :=
    trimSpaces_eq_self fun c hc => isSpace_of_isDigit (hdigits c hc)
  have hsign := splitSign_of_isDigit fun c hc => hdigits c (List.mem_of_mem_head? hc)
  have hlength : (Nat.toDigits 10 n).length ≤ digitLimit :=
    length_toDigits_le (by decide) h
  have hcount := List.countP_le_length (p := fun c => c != '_') (l := Nat.toDigits 10 n)
  have hread : readNat? (Nat.toDigits 10 n) = some n := by
    unfold readNat?
    rw [if_neg (by omega)]
    cases hcons : Nat.toDigits 10 n with
    | nil => exact absurd hcons Nat.toDigits_ne_nil
    | cons c r =>
      rw [hcons] at hdigits
      obtain ⟨hc, hr⟩ := List.forall_mem_cons.1 hdigits
      have hvalue := Nat.ofDigitChars_toDigits (b := 10) (n := n) (by decide) (by decide)
      rw [hcons] at hvalue
      simp only [digitValue?_of_isDigit hc, Option.bind_some, readDigits_of_all hr]
      rw [← hvalue]
      simp [Nat.ofDigitChars]
  rw [readInt?, htrim, hsign]
  simp only [hread]
  rfl

theorem head?_toDigits_ne_zero {n : Nat} (h : 0 < n) : (Nat.toDigits 10 n).head? ≠ some '0' := by
  induction n using Nat.strong_induction_on with
  | _ n ih =>
    obtain hsmall | hlarge := Nat.lt_or_ge n 10
    · rw [Nat.toDigits_of_lt_base hsmall]
      simp only [List.head?_cons, ne_eq, Option.some.injEq, Nat.digitChar_eq_zero]
      omega
    · rw [Nat.toDigits_of_base_le (by decide) hlarge,
        List.head?_append_of_ne_nil _ Nat.toDigits_ne_nil]
      exact ih (n / 10) (by omega) (by omega)

/-! ### Hexadecimal digits -/

theorem foldlM_replicate_digit (n acc : Nat) :
    (List.replicate n 'f').foldlM (fun n c => (hexDigitValue? c).bind fun d =>
      if d < 16 then some (16 * n + d) else none) acc = some (16 ^ n * acc + (16 ^ n - 1)) := by
  induction n generalizing acc with
  | zero => simp
  | succ n ih =>
    have hdigit : hexDigitValue? 'f' = some 15 := by decide
    have hpos : 0 < 16 ^ n := Nat.pow_pos (by decide)
    rw [List.replicate_succ, List.foldlM_cons, hdigit]
    refine (ih (16 * acc + 15)).trans (congrArg some ?_)
    rw [Nat.pow_succ, Nat.mul_add, ← Nat.mul_assoc, Nat.mul_comm (16 ^ n) 15]
    omega

/-- In base sixteen any number of digits is read. -/
theorem readIntIn?_replicate {n : Nat} (h : 0 < n) :
    readIntIn? 16 'x' (List.replicate n 'f') = some ((16 ^ n - 1 : Nat) : Int) := by
  have hspace : ∀ c ∈ List.replicate n 'f', isSpace c = false := by
    intro c hc
    rw [List.eq_of_mem_replicate hc]
    decide
  have hread := foldlM_replicate_digit n 0
  obtain ⟨k, rfl⟩ := Nat.exists_eq_succ_of_ne_zero (Nat.ne_of_gt h)
  rw [readIntIn?, trimSpaces_eq_self hspace]
  rw [List.replicate_succ] at hread ⊢
  have hdigits : readDigitsIn? 16 ('f' :: List.replicate k 'f') = some (16 ^ (k + 1) - 1) := by
    simpa [readDigitsIn?] using hread
  change (readDigitsIn? 16 ('f' :: List.replicate k 'f')).map (withSign false) = _
  rw [hdigits]
  rfl

end Chip8.Text

/-! ### Integers that can be written -/

namespace Chip8

theorem Text.intText?_eq_some {i : Int} (h : i.natAbs < Nat.pow 10 digitLimit) :
    intText? i = some (toString i) := by
  rw [intText?, if_pos h]

theorem Text.intText?_ne_none_iff {i : Int} :
    intText? i ≠ none ↔ i.natAbs < Nat.pow 10 digitLimit := by
  unfold intText?
  split <;> simp_all

namespace Settings

open Chip8.Yaml (Scalar)

/-- No integer of the settings has too many digits to be written. -/
def Printable (c : Settings) : Prop :=
  ∀ i ∈ [c.scale, c.cyclesPerFrame, c.fps, c.seed, c.maxCycles],
    i.natAbs < Nat.pow 10 Text.digitLimit

theorem printable_iff (c : Settings) : c.Printable ↔ ∀ entry ∈ c.entries, entry.2 ≠ none := by
  have hint : ∀ i, (Scalar.int i).text? = Text.intText? i := fun _ => rfl
  have hstr : ∀ t, (Scalar.str t).text? ≠ none := fun _ => nofun
  have hflag : ∀ b, (Scalar.bool b).text? ≠ none := by decide
  simp only [Printable, ← Text.intText?_ne_none_iff, entries, Field.all, List.forall_mem_map,
    List.forall_mem_cons, Field.get, Kind.toScalar, hint, hstr, hflag, ne_eq, not_false_eq_true,
    true_and, List.not_mem_nil, IsEmpty.forall_iff, implies_true]

end Settings

end Chip8
