/-
  Chip8/Proofs/Decoding.lean
  ==========================
  **Words are read through their low sixteen bits** — the fields of a word of any size and sign are
  masks of its two's complement, and together they give its low half back.

  So two words have the same fields just when they have the same low half, and they are the same
  instruction and do the same.  Family 0 is the exception: there the whole word counts, for the
  classifier as for the dispatcher, and a word with more than sixteen bits is none of its two
  instructions.
-/
import Mathlib.Data.Int.Bitwise
import Chip8.Proofs.Dispatch

namespace Chip8

namespace Opcode

/-! ### Masks of two's complement -/

/-- The low half of a word has the low bits of its two's complement. -/
theorem testBit_low16 (word : Int) {k : Nat} (hk : k < 16) :
    (low16 word).testBit k = word.testBit k := by
  have hlow : ((low16 word : Nat) : Int) = word % 65536 := by
    unfold low16
    omega
  cases word with
  | ofNat m =>
    have hmod : low16 (Int.ofNat m) = m % 2 ^ 16 := by
      have : (Int.ofNat m) = (m : Int) := rfl
      omega
    rw [hmod, Nat.testBit_mod_two_pow, decide_eq_true hk, Bool.true_and]
    rfl
  | negSucc m =>
    -- the low bits of a negative number are those of the complement
    have hmod : low16 (Int.negSucc m) = 2 ^ 16 - (m % 2 ^ 16 + 1) := by
      have : Int.negSucc m = -((m : Int) + 1) := rfl
      omega
    have hlt : m % 2 ^ 16 < 2 ^ 16 := Nat.mod_lt m (by decide)
    rw [hmod, Nat.testBit_two_pow_sub_succ hlt, Nat.testBit_mod_two_pow, decide_eq_true hk,
      Bool.true_and, Bool.true_and]
    rfl

/-- A mask of sixteen bits leaves of a word what it leaves of its low half. -/
theorem land_eq (word : Int) {mask : Nat} (hmask : mask < 2 ^ 16) :
    Int.land word mask = (low16 word &&& mask : Nat) := by
  have hbits : ∀ k, Int.testBit (Int.land word mask) k = Nat.testBit (low16 word &&& mask) k := by
    intro k
    rw [Int.testBit_land, Nat.testBit_and]
    change (word.testBit k && mask.testBit k) = _
    by_cases hk : k < 16
    · rw [testBit_low16 word hk]
    · have hhigh : mask.testBit k = false :=
        Nat.testBit_lt_two_pow (Nat.lt_of_lt_of_le hmask
          (Nat.pow_le_pow_right (by decide) (Nat.le_of_not_lt hk)))
      rw [hhigh, Bool.and_false, Bool.and_false]
  cases word with
  | ofNat m => exact congrArg Int.ofNat (Nat.eq_of_testBit_eq hbits)
  | negSucc m => exact congrArg Int.ofNat (Nat.eq_of_testBit_eq hbits)

/-- The field at the end of a word. -/
theorem land_low_eq (word : Int) (width : Nat) (hmask : 2 ^ width - 1 < 2 ^ 16) :
    Int.land word (2 ^ width - 1 : Nat) = (low16 word % 2 ^ width : Nat) := by
  rw [land_eq word hmask, Nat.and_two_pow_sub_one_eq_mod]

/-- A field that a mask leaves of a word, moved to the end. -/
theorem land_shiftRight_eq (word : Int) (width place : Nat)
    (hmask : (2 ^ width - 1) <<< place < 2 ^ 16) :
    Int.land word ((2 ^ width - 1) <<< place : Nat) >>> place =
      (low16 word / 2 ^ place % 2 ^ width : Nat) := by
  have hshift : ∀ a : Nat, ((a : Int) >>> place) = (a >>> place : Nat) := fun _ => rfl
  rw [land_eq word hmask, hshift, Nat.shiftRight_and_distrib, Nat.shiftLeft_shiftRight,
    Nat.and_two_pow_sub_one_eq_mod, Nat.shiftRight_eq_div_pow]

/-- The fields are what masks leave of the two's complement of a word, moved to the end. -/
structure Masks (word : Int) (o : Opcode) : Prop where
  raw_eq : o.raw = word
  family_eq : (o.family : Int) = Int.land word 0xF000 >>> (12 : Nat)
  x_eq : (o.x : Int) = Int.land word 0x0F00 >>> (8 : Nat)
  y_eq : (o.y : Int) = Int.land word 0x00F0 >>> (4 : Nat)
  n_eq : (o.n : Int) = Int.land word 0x000F
  nn_eq : (o.nn : Int) = Int.land word 0x00FF
  nnn_eq : (o.nnn : Int) = Int.land word 0x0FFF

theorem masks_ofWord (word : Int) : Masks word (ofWord word) where
  raw_eq := rfl
  family_eq := by
    have hlt := low16_lt word
    have hsmall : low16 word / 2 ^ 12 % 2 ^ 4 = low16 word / 4096 := by omega
    exact (congrArg Nat.cast hsmall.symm).trans (land_shiftRight_eq word 4 12 (by decide)).symm
  x_eq := (land_shiftRight_eq word 4 8 (by decide)).symm
  y_eq := (land_shiftRight_eq word 4 4 (by decide)).symm
  n_eq := (land_low_eq word 4 (by decide)).symm
  nn_eq := (land_low_eq word 8 (by decide)).symm
  nnn_eq := (land_low_eq word 12 (by decide)).symm

/-! ### Nothing is lost -/

/-- The fields are in their ranges, and those that overlap agree. -/
structure Coherent (o : Opcode) : Prop where
  family_lt : o.family < 16
  x_lt : o.x < 16
  y_lt : o.y < 16
  n_lt : o.n < 16
  nn_lt : o.nn < 256
  nnn_lt : o.nnn < 4096
  nn_eq : o.nn = 16 * o.y + o.n
  nnn_eq : o.nnn = 256 * o.x + o.nn

theorem coherent_ofWord (word : Int) : (ofWord word).Coherent where
  family_lt := family_lt word
  x_lt := x_lt word
  y_lt := y_lt word
  n_lt := Nat.mod_lt _ (by decide)
  nn_lt := nn_lt word
  nnn_lt := nnn_lt word
  nn_eq := by
    simp only [ofWord]
    omega
  nnn_eq := by
    simp only [ofWord]
    omega

/-- The first nibble and the address give the low half of a word back. -/
theorem family_nnn_eq (word : Int) :
    ((4096 * (ofWord word).family + (ofWord word).nnn : Nat) : Int) = word % 65536 := by
  have hlow : low16 word = (word % 65536).toNat := rfl
  simp only [ofWord]
  omega

theorem low16_eq_iff {word other : Int} :
    low16 other = low16 word ↔ other % 65536 = word % 65536 := by
  simp only [low16]
  omega

/-- **Words have the same fields just when they have the same low half.** -/
theorem ofWord_eq_iff {word other : Int} :
    ofWord other = { ofWord word with raw := other } ↔ other % 65536 = word % 65536 := by
  constructor
  · intro h
    have hfamily : (ofWord other).family = (ofWord word).family := by rw [h]
    have hnnn : (ofWord other).nnn = (ofWord word).nnn := by rw [h]
    rw [← family_nnn_eq other, ← family_nnn_eq word, hfamily, hnnn]
  · intro h
    simp only [ofWord, low16_eq_iff.2 h]

/-! ### Classifying -/

variable {word : Int}

/-- Outside family 0 a word is known by its fields. -/
theorem known_emod (h : (ofWord word).family ≠ 0x0) : known (word % 65536) = known word := by
  have hfields := ofWord_eq_iff.2 (Int.emod_emod_of_dvd word (dvd_refl 65536))
  unfold known
  simp only [hfields]
  split
  · contradiction
  all_goals rfl

theorem known_iff_of_system (h : (ofWord word).family = 0x0) :
    known word = true ↔ word = 0x00E0 ∨ word = 0x00EE := by
  simp only [known, h, Bool.or_eq_true, beq_iff_eq]

end Opcode

/-! ### Dispatching -/

namespace Instruction

/-- Outside family 0 only the fields of a word are looked at. -/
theorem ofOpcode_of_family_ne {o : Opcode} (h : o.family ≠ 0x0) (raw : Int) :
    ofOpcode { o with raw := raw } = ofOpcode o := by
  obtain ⟨_, family, x, y, n, nn, nnn⟩ := o
  unfold ofOpcode
  dsimp only at h ⊢
  split
  · contradiction
  all_goals rfl

theorem ofWord_emod {word : Int} (h : (Opcode.ofWord word).family ≠ 0x0) :
    ofWord (word % 65536) = ofWord word := by
  rw [ofWord, Opcode.ofWord_eq_iff.2 (Int.emod_emod_of_dvd word (dvd_refl 65536)),
    ofOpcode_of_family_ne h, ofWord]

end Instruction

namespace Machine

theorem execute_of_system {m : Machine} {word : Int} (h : (Opcode.ofWord word).family = 0x0)
    (hclear : word ≠ 0x00E0) (hret : word ≠ 0x00EE) : m.execute word = m := by
  have hunknown : Opcode.known word = false :=
    Bool.eq_false_iff.2 fun hknown => ((Opcode.known_iff_of_system h).1 hknown).elim hclear hret
  rw [execute_eq_of_unknown m hunknown, if_neg]
  rintro ⟨hkey, -⟩
  rw [h] at hkey
  cases hkey

/-- **A word counts through its low sixteen bits, and loses none of them.**  Its fields are masks of
    its two's complement, are in their ranges and give its low half back, so that words have the
    same fields just when they have the same low half.  Outside family 0 the low half of a word is
    known if the word is, and does the same.  In family 0 the word itself has to be one of two
    words to be known, and does nothing otherwise. -/
theorem execute_low_half (m : Machine) (word : Int) :
    let o := Opcode.ofWord word
    Opcode.Masks word o ∧ o.Coherent ∧
      ((4096 * o.family + o.nnn : Nat) : Int) = word % 65536 ∧
      Opcode.ofWord (word % 65536) = { o with raw := word % 65536 } ∧
      (∀ other, Opcode.ofWord other = { o with raw := other } ↔
        other % 65536 = word % 65536) ∧
      (o.family ≠ 0x0 →
        Opcode.known (word % 65536) = Opcode.known word ∧
          m.execute (word % 65536) = m.execute word) ∧
      (o.family = 0x0 →
        (Opcode.known word = true ↔ word = 0x00E0 ∨ word = 0x00EE) ∧
          (word ≠ 0x00E0 → word ≠ 0x00EE → m.execute word = m)) := by
  intro o
  have hhalf : Opcode.ofWord (word % 65536) = { o with raw := word % 65536 } :=
    Opcode.ofWord_eq_iff.2 (Int.emod_emod_of_dvd word (dvd_refl 65536))
  refine ⟨Opcode.masks_ofWord word, Opcode.coherent_ofWord word, Opcode.family_nnn_eq word, hhalf,
    fun other => Opcode.ofWord_eq_iff, fun hfamily => ⟨Opcode.known_emod hfamily, ?_⟩,
    fun hfamily => ⟨Opcode.known_iff_of_system hfamily, execute_of_system hfamily⟩⟩
  rw [execute, execute, Instruction.ofWord_emod hfamily]

/-- The word 81F4 as a negative number still adds two registers, and 100E0, which has the low half
    of the word that clears the screen, is unknown and does nothing. -/
theorem execute_low_half_of_wide :
    let m : Machine := { initial ⟨0, 0⟩ with dirty := true, delay := 3 }
    (Opcode.ofWord (-0x7E0C)).y = 0xF ∧ m.execute (-0x7E0C) = m.execute 0x81F4 ∧
      Opcode.ofWord 0x100E0 = { Opcode.ofWord 0xE0 with raw := 0x100E0 } ∧
      Opcode.known 0x100E0 = false ∧ m.execute 0x100E0 = m := by
  intro m
  obtain ⟨-, -, -, -, -, hfields, -⟩ := execute_low_half m (-0x7E0C)
  obtain ⟨-, -, -, -, hsame, -, -⟩ := execute_low_half m 0xE0
  obtain ⟨-, -, -, -, -, -, hwhole⟩ := execute_low_half m 0x100E0
  obtain ⟨hknown, hidle⟩ := hwhole (by decide)
  have hadds : m.execute 0x81F4 = m.execute (-0x7E0C) := (hfields (by decide)).2
  have hunknown : Opcode.known 0x100E0 = false := by
    rw [Bool.eq_false_iff, ne_eq, hknown]
    decide
  exact ⟨by decide, hadds.symm, (hsame 0x100E0).2 (by decide), hunknown,
    hidle (by decide) (by decide)⟩

end Machine

end Chip8
