/-
  Chip8/Proofs/Arithmetic.lean
  ============================
  **The law of the arithmetic words** — what each of them makes of two registers, on numbers and
  with remainders, whichever registers they are.

  `Opcode.arithmetic` has one row for each last nibble: the result, and the flag if the word sets
  one.  `AluOp.arithmetic_nibble` says that the bytes of an operation are those numbers, and
  `computes_combine` where they go: the flag is stored last, so it is what the flag register holds,
  also where the result went to the same register.

  A register is also added to the index register.  The sum is compared with the last address after
  it has wrapped, so the flag does not tell a sum that leaves sixteen bits
  (`execute_adds_to_index`).
-/
import Chip8.Proofs.Hiding

namespace Chip8

/-! ### Results and flags -/

/-- The result and the flag of an arithmetic word that ends in a nibble, from the numbers in its
    registers.  Some words set no flag, and some nibbles are no operation. -/
def Opcode.arithmetic (nibble a b : Nat) : Option (Nat × Option Nat) :=
  match nibble with
  | 0x0 => some (b, none)
  | 0x1 => some (a ||| b, none)
  | 0x2 => some (a &&& b, none)
  | 0x3 => some (a ^^^ b, none)
  | 0x4 => some ((a + b) % 256, some (if 255 < a + b then 1 else 0))
  | 0x5 => some ((((a : Int) - b) % 256).toNat, some (if b ≤ a then 1 else 0))
  | 0x6 => some (a / 2, some (a % 2))
  | 0x7 => some ((((b : Int) - a) % 256).toNat, some (if a ≤ b then 1 else 0))
  | 0xE => some (2 * a % 256, some (a / 128))
  | _ => none

namespace AluOp

theorem toNat_decide (p : Prop) [Decidable p] : (decide p).toNat = if p then 1 else 0 := by
  by_cases h : p <;> simp [h]

theorem toNat_sub_byte (a b : UInt8) :
    (a - b).toNat = (((a.toNat : Int) - b.toNat) % 256).toNat := by
  have ha := a.toNat_lt
  have hb := b.toNat_lt
  rw [UInt8.toNat_sub]
  omega

theorem toNat_mod_two (a : UInt8) : (decide (a % 2 = 1)).toNat = a.toNat % 2 := by
  have hmod : a % 2 = 1 ↔ a.toNat % 2 = 1 := by
    rw [← UInt8.toNat_inj, UInt8.toNat_mod]
    rfl
  simp only [toNat_decide, hmod]
  split <;> omega

theorem toNat_div_128 (a : UInt8) : (decide (a / 128 = 1)).toNat = a.toNat / 128 := by
  have ha := a.toNat_lt
  have hdiv : a / 128 = 1 ↔ a.toNat / 128 = 1 := by
    rw [← UInt8.toNat_inj, UInt8.toNat_div]
    rfl
  simp only [toNat_decide, hdiv]
  split <;> omega

/-- **The bytes of an operation are the numbers of its row.** -/
theorem arithmetic_nibble (op : AluOp) (a b : UInt8) :
    Opcode.arithmetic op.nibble a.toNat b.toNat =
      some ((op.result a b).toNat, (op.flag? a b).map Bool.toNat) := by
  cases op with
  | copy => rfl
  | or => simp [nibble, Opcode.arithmetic, result, flag?]
  | and => simp [nibble, Opcode.arithmetic, result, flag?]
  | xor => simp [nibble, Opcode.arithmetic, result, flag?]
  | add => simp [nibble, Opcode.arithmetic, result, flag?, toNat_decide]
  | sub =>
    simp [nibble, Opcode.arithmetic, result, flag?, toNat_decide, toNat_sub_byte,
      UInt8.le_iff_toNat_le]
  | halve => simp [nibble, Opcode.arithmetic, result, flag?, toNat_mod_two]
  | subFrom =>
    simp [nibble, Opcode.arithmetic, result, flag?, toNat_decide, toNat_sub_byte,
      UInt8.le_iff_toNat_le]
  | double => simp [nibble, Opcode.arithmetic, result, flag?, toNat_div_128, Nat.mul_comm]

theorem arithmetic_eq_none {nibble : Nat} (h : ofNibble? nibble = none) (a b : Nat) :
    Opcode.arithmetic nibble a b = none := by
  unfold Opcode.arithmetic
  split <;> first | rfl | cases h

end AluOp

namespace Machine

/-! ### Where they go -/

/-- The machine differs from the one before in a register that holds the result, and in the flag
    register if there is a flag; that holds the flag then, whichever register the result goes to. -/
def Computes (m m' : Machine) (x : Reg) : Option (Nat × Option Nat) → Prop
  | none => m' = m
  | some (result, none) => (m'.reg x).toNat = result ∧ AgreeOff [.reg x] m m'
  | some (result, some flag) =>
    (x ≠ flagReg → (m'.reg x).toNat = result) ∧ (m'.reg flagReg).toNat = flag ∧
      AgreeOff [.reg x, .reg flagReg] m m'

theorem computes_combine (m : Machine) (op : AluOp) (x y : Reg) :
    m.Computes (m.combine op x y) x
      (some ((op.result (m.reg x) (m.reg y)).toNat,
        (op.flag? (m.reg x) (m.reg y)).map Bool.toNat)) := by
  have hresult := reg_setReg_self m x (op.result (m.reg x) (m.reg y))
  have hkept : ∀ p : Part, p ≠ .reg x → p.Agrees m (m.setReg x (op.result (m.reg x) (m.reg y))) :=
    fun p hp => Part.agrees_setReg hp _
  rw [combine]
  cases op.flag? (m.reg x) (m.reg y) with
  | none =>
    refine ⟨congrArg UInt8.toNat hresult, ?_⟩
    intro p hp
    apply hkept
    simpa using hp
  | some f =>
    refine ⟨?_, ?_, ?_⟩
    · intro hx
      have hother : Part.reg x ≠ .reg flagReg := fun h => hx (Part.reg.inj h)
      have hsame := Part.agrees_setFlag (m := m.setReg x (op.result (m.reg x) (m.reg y))) hother f
      exact congrArg UInt8.toNat (Eq.trans hsame hresult)
    · have hflag := reg_setReg_self (m.setReg x (op.result (m.reg x) (m.reg y))) flagReg
        (if f then 1 else 0)
      refine (congrArg UInt8.toNat hflag).trans ?_
      cases f <;> rfl
    · intro p hp
      simp only [List.mem_cons, List.not_mem_nil, or_false, not_or] at hp
      exact (hkept p hp.1).trans (Part.agrees_setFlag hp.2 f)

/-- **The law of the arithmetic words.**  Whichever registers it names, an arithmetic word computes
    the row of its last nibble from the numbers that they hold before, and changes nothing else. -/
theorem execute_computes (m : Machine) {word : Int} (hword : (Opcode.ofWord word).family = 0x8) :
    let x := Opcode.regX word
    let y := Opcode.regY word
    m.Computes (m.execute word) x
      (Opcode.arithmetic (Opcode.ofWord word).n (m.reg x).toNat (m.reg y).toNat) := by
  intro x y
  rw [execute, Instruction.ofWord_of_arithmetic hword]
  cases hop : AluOp.ofNibble? (Opcode.ofWord word).n with
  | none =>
    rw [AluOp.arithmetic_eq_none hop]
    rfl
  | some op =>
    rw [← (AluOp.ofNibble?_eq_some_iff _ _).1 hop, AluOp.arithmetic_nibble]
    exact computes_combine m op x y

/-- Five is subtracted from three in the flag register: the borrow is what remains there, and the
    other register is as it was. -/
theorem execute_computes_into_flag :
    let m : Machine :=
      { initial ⟨0, 0⟩ with regs := ((Vector.replicate 16 0).set 0 5).set 15 3 }
    let m' := m.execute 0x8F05
    (m'.reg flagReg).toNat = 0 ∧ m'.reg 0 = m.reg 0 := by
  intro m m'
  have hword : (Opcode.ofWord 0x8F05).family = 0x8 := by decide
  have hrow : Opcode.arithmetic (Opcode.ofWord 0x8F05).n (m.reg (Opcode.regX 0x8F05)).toNat
      (m.reg (Opcode.regY 0x8F05)).toNat = some (254, some 0) := by decide
  have hcomputes := execute_computes m hword
  simp only [hrow] at hcomputes
  obtain ⟨-, hflag, hkept⟩ := hcomputes
  refine ⟨hflag, hkept (.reg 0) ?_⟩
  decide

/-! ### Adding to the index register -/

theorem toNat_index_addIndex (m : Machine) (x : Reg) :
    ((Instruction.addIndex x).execute m).index.toNat =
      (m.index.toNat + (m.reg x).toNat) % 65536 := by
  change (m.index + (m.reg x).toUInt16).toNat = _
  rw [UInt16.toNat_add, UInt8.toNat_toUInt16]

/-- The flag is about the index register after the addition. -/
theorem reg_flagReg_addIndex (m : Machine) (x : Reg) :
    ((Instruction.addIndex x).execute m).reg flagReg =
      if 0xFFF < ((Instruction.addIndex x).execute m).index.toNat then 1 else 0 := by
  have hflag : ((Instruction.addIndex x).execute m).reg flagReg =
      if decide (0xFFF < m.index + (m.reg x).toUInt16) then 1 else 0 := reg_setReg_self _ _ _
  have hindex : ((Instruction.addIndex x).execute m).index = m.index + (m.reg x).toUInt16 := rfl
  have hlast : (0xFFF : UInt16).toNat = 0xFFF := rfl
  rw [hflag, hindex]
  simp only [decide_eq_true_eq, UInt16.lt_iff_toNat_lt, hlast]

/-- **The law of adding to the index register.**  The index register becomes the sum modulo 65536;
    the flag register becomes one if the sum is past the last address and does not leave sixteen
    bits, and zero otherwise; nothing else changes. -/
theorem execute_adds_to_index (m : Machine) {word : Int}
    (hword : (Opcode.ofWord word).IsMisc 0x1E) :
    let i := m.index.toNat
    let v := (m.reg (Opcode.regX word)).toNat
    let m' := m.execute word
    m'.index.toNat = (i + v) % 65536 ∧
    m'.reg flagReg = (if 0xFFF < i + v ∧ i + v < 65536 then 1 else 0) ∧
    AgreeOff [.index, .reg flagReg] m m' := by
  intro i v m'
  have hadd : m' = (Instruction.addIndex (Opcode.regX word)).execute m := by
    change (Instruction.ofWord word).execute m = _
    rw [Instruction.ofWord_of_isMisc hword]
    rfl
  have hindex : m'.index.toNat = (i + v) % 65536 := by
    rw [hadd]
    exact toNat_index_addIndex m _
  refine ⟨hindex, ?_, ?_⟩
  · have hi : i < 65536 := m.index.toNat_lt
    have hv : v < 256 := (m.reg (Opcode.regX word)).toNat_lt
    -- a sum that wraps is less than a byte
    have hpast : 0xFFF < m'.index.toNat ↔ 0xFFF < i + v ∧ i + v < 65536 := by omega
    have hflag : m'.reg flagReg = if 0xFFF < m'.index.toNat then 1 else 0 := by
      rw [hadd]
      exact reg_flagReg_addIndex m _
    simp only [hflag, hpast]
  · rw [hadd]
    apply agreeOff_execute
    rintro p (rfl | rfl) <;> simp

/-- One is added from the flag register at the last address: the register that was added holds
    the flag then. -/
theorem execute_adds_to_index_from_flag :
    let m : Machine :=
      { initial ⟨0, 0⟩ with index := 0xFFF, regs := (Vector.replicate 16 0).set 15 1 }
    let m' := m.execute 0xFF1E
    m'.index.toNat = 0x1000 ∧ m'.reg flagReg = 1 ∧ m'.reg 0 = m.reg 0 := by
  intro m m'
  have hword : (Opcode.ofWord 0xFF1E).IsMisc 0x1E := by decide
  have hreg : (m.reg (Opcode.regX 0xFF1E)).toNat = 1 := by decide
  obtain ⟨hindex, hflag, hkept⟩ := execute_adds_to_index m hword
  rw [hreg] at hindex hflag
  refine ⟨hindex, hflag, hkept (.reg 0) ?_⟩
  decide

/-- The flag does not tell whether the sum is past the last address: one is added to 0xFFFF, and
    neither the index register nor the flag shows it. -/
theorem execute_forgets_carry :
    ¬ ∀ (m : Machine) (word : Int), (Opcode.ofWord word).IsMisc 0x1E →
      let i := m.index.toNat
      let v := (m.reg (Opcode.regX word)).toNat
      let m' := m.execute word
      m'.index.toNat = (i + v) % 65536 ∧
      m'.reg flagReg = (if 0xFFF < i + v then 1 else 0) ∧
      AgreeOff [.index, .reg flagReg] m m' := by
  intro hlaw
  let m : Machine :=
    { initial ⟨0, 0⟩ with index := 0xFFFF, regs := (Vector.replicate 16 0).set 0 1 }
  have hclaimed := (hlaw m 0xF01E (by decide)).2.1
  have hflag : (m.execute 0xF01E).reg flagReg = 0 := by decide
  rw [hflag] at hclaimed
  revert hclaimed
  decide

end Machine

end Chip8
