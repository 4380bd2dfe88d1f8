/-
  Chip8/Proofs/Digits.lean
  ========================
  **Decimal digits through memory** — the digits of a register go to the three bytes that the
  index register points at, as far as there are bytes, and come back in registers 0 to 2.

  A word that stores digits moves nothing but bytes (`StoresDigits`), so the word that loads a
  block after it finds the index register where it was and takes up the same three bytes.
-/
import Chip8.Proofs.Transfer

namespace Chip8.Machine

variable {m m' k : Machine} {x : Reg} {b h t u : UInt8}

/-! ### The digits of a byte -/

/-- Hundreds, tens and ones of a byte. -/
structure Digits (b h t u : UInt8) : Prop where
  hundreds_le : h ≤ 9
  tens_le : t ≤ 9
  ones_le : u ≤ 9
  value_eq : 100 * h.toNat + 10 * t.toNat + u.toNat = b.toNat

theorem digits_of_byte (b : UInt8) : Digits b (b / 100) (b / 10 % 10) (b % 10) := by
  have hb := b.toNat_lt
  have hhundreds : (b / 100).toNat = b.toNat / 100 := UInt8.toNat_div b 100
  have htens : (b / 10 % 10).toNat = b.toNat / 10 % 10 := by
    rw [UInt8.toNat_mod, UInt8.toNat_div]
    rfl
  have hones : (b % 10).toNat = b.toNat % 10 := UInt8.toNat_mod b 10
  have hnine : (9 : UInt8).toNat = 9 := rfl
  constructor
  · rw [UInt8.le_iff_toNat_le]
    omega
  · rw [UInt8.le_iff_toNat_le]
    omega
  · rw [UInt8.le_iff_toNat_le]
    omega
  · omega

/-- The digits of a byte are determined. -/
theorem Digits.unique {h' t' u' : UInt8} (hd : Digits b h t u) (hd' : Digits b h' t' u') :
    h = h' ∧ t = t' ∧ u = u' := by
  have hnine : (9 : UInt8).toNat = 9 := rfl
  obtain ⟨hh, ht, hu, hvalue⟩ := hd
  obtain ⟨hh', ht', hu', hvalue'⟩ := hd'
  rw [UInt8.le_iff_toNat_le, hnine] at hh ht hu hh' ht' hu'
  refine ⟨UInt8.toNat_inj.1 ?_, UInt8.toNat_inj.1 ?_, UInt8.toNat_inj.1 ?_⟩ <;> omega

/-! ### Storing -/

/-- The machine differs from the one before by three bytes at the index register, of which those
    past the end of memory are lost. -/
structure StoresDigits (m m' : Machine) (h t u : UInt8) : Prop where
  hundreds : ∀ a : Fin 4096, a.val = m.index.toNat → m'.memory.get a = h
  tens : ∀ a : Fin 4096, a.val = m.index.toNat + 1 → m'.memory.get a = t
  ones : ∀ a : Fin 4096, a.val = m.index.toNat + 2 → m'.memory.get a = u
  kept : ∀ a : Fin 4096, ¬ (m.index.toNat ≤ a ∧ a ≤ m.index.toNat + 2) →
    m'.memory.get a = m.memory.get a
  others : ∀ p : Part, (∀ a, p ≠ .byte a) → p.Agrees m m'

theorem storesDigits_storeDigits (m : Machine) (x : Reg) :
    m.StoresDigits ((Instruction.storeDigits x).execute m)
      (m.reg x / 100) (m.reg x / 10 % 10) (m.reg x % 10) := by
  have hbyte : ∀ a : Fin 4096, m.index.toNat ≤ a →
      ((Instruction.storeDigits x).execute m).memory.get a =
        (decimalDigits (m.reg x)).getD (a.val - m.index.toNat) (m.memory.get a) := by
    intro a ha
    change (Cells.writeAll m.memory m.index.toNat (decimalDigits (m.reg x)))[a.val] = _
    rw [Cells.getElem_writeAll, if_pos ha]
    rfl
  constructor
  · intro a ha
    rw [hbyte a (by omega), show a.val - m.index.toNat = 0 by omega]
    rfl
  · intro a ha
    rw [hbyte a (by omega), show a.val - m.index.toNat = 1 by omega]
    rfl
  · intro a ha
    rw [hbyte a (by omega), show a.val - m.index.toNat = 2 by omega]
    rfl
  · intro a ha
    have hout : ¬ (m.index.toNat ≤ a ∧ a < m.index.toNat + (decimalDigits (m.reg x)).length) :=
      fun hin => ha ⟨hin.1, Nat.le_of_lt_succ hin.2⟩
    exact Cells.getElem_writeAll_of_not_mem m.memory hout
  · intro p hp
    apply Instruction.execute_agrees
    rintro ⟨a, rfl, -⟩
    exact hp a rfl

theorem storesDigits_of_isMisc (m : Machine) {store : Int}
    (hstore : (Opcode.ofWord store).IsMisc 0x33) :
    ∃ h t u, Digits (m.reg (Opcode.regX store)) h t u ∧
      m.StoresDigits (m.execute store) h t u := by
  rw [execute, Instruction.ofWord_of_isMisc hstore]
  exact ⟨_, _, _, digits_of_byte _, storesDigits_storeDigits m _⟩

/-! ### Loading -/

/-- Digits that lie in memory are loaded as they were stored. -/
theorem StoresDigits.loaded (hstore : m.StoresDigits m' h t u) (hload : m'.Loads k x)
    (hin : m.index.toNat ≤ 0xFFD) (hx : 2 ≤ x) :
    k.reg 0 = h ∧ k.reg 1 = t ∧ k.reg 2 = u ∧ k.index.toNat = m.index.toNat + x + 1 := by
  have hlast := x.isLt
  have hindex : m'.index = m.index := hstore.others .index nofun
  have hbyte : ∀ j : Reg, j ≤ 2 → ∃ a : Fin 4096, a.val = m.index.toNat + j ∧
      k.reg j = m'.memory.get a := by
    intro j hj
    have hj2 : j.val ≤ 2 := hj
    have hmin : min (m.index.toNat + j) 0xFFF = m.index.toNat + j := by omega
    have hloaded := hload.loaded j (Nat.le_trans hj hx)
    simp only [hindex, hmin] at hloaded
    exact ⟨⟨m.index.toNat + j, by omega⟩, rfl, hloaded⟩
  obtain ⟨a₀, ha₀, h₀⟩ := hbyte 0 (by decide)
  obtain ⟨a₁, ha₁, h₁⟩ := hbyte 1 (by decide)
  obtain ⟨a₂, ha₂, h₂⟩ := hbyte 2 (by decide)
  refine ⟨h₀.trans (hstore.hundreds a₀ ha₀), h₁.trans (hstore.tens a₁ ha₁),
    h₂.trans (hstore.ones a₂ ha₂), ?_⟩
  rw [hload.index_eq, hindex]
  omega

/-- **Digits go through memory.**  A word that stores the digits of a register writes hundreds,
    tens and ones to the three bytes that the index register points at, those of them that there
    are, and changes nothing else.  If all three are there, a word that loads registers 0 to 2 next
    puts the digits into them, whichever register they came from, moves the index register past
    them, and changes nothing else. -/
theorem execute_stores_digits (m : Machine) (store : Int)
    (hstore : (Opcode.ofWord store).IsMisc 0x33) :
    ∃ h t u, Digits (m.reg (Opcode.regX store)) h t u ∧
      m.StoresDigits (m.execute store) h t u ∧
      (m.index.toNat ≤ 0xFFD →
        ∀ load, (Opcode.ofWord load).IsMisc 0x65 → Opcode.regX load = 2 →
          let k := (m.execute store).execute load
          k.reg 0 = h ∧ k.reg 1 = t ∧ k.reg 2 = u ∧ k.index.toNat = m.index.toNat + 3 ∧
            ∀ p : Part, p ≠ .index → (∀ r ≤ 2, p ≠ .reg r) → p.Agrees (m.execute store) k) := by
  obtain ⟨h, t, u, hdigits, hstores⟩ := storesDigits_of_isMisc m hstore
  refine ⟨h, t, u, hdigits, hstores, ?_⟩
  intro hin load hload hx k
  have hloads : (m.execute store).Loads k 2 := hx ▸ loads_of_isMisc _ hload
  obtain ⟨hhundreds, htens, hones, hindex⟩ := hstores.loaded hloads hin (by decide)
  exact ⟨hhundreds, htens, hones, hindex, fun p => hloads.agrees⟩

/-- The digits of register 1 lie at the end of memory; loading them overwrites it. -/
theorem execute_stores_digits_at_end :
    let m : Machine :=
      { initial ⟨0, 0⟩ with
        index := 0xFFD
        regs := (Vector.replicate 16 7).setIfInBounds 1 254 }
    let k := (m.execute 0xF133).execute 0xF265
    (m.execute 0xF133).memory.get 0xFFF = 4 ∧ (m.execute 0xF133).memory.get 0xFFC = 0 ∧
      k.reg 0 = 2 ∧ k.reg 1 = 5 ∧ k.reg 2 = 4 ∧ k.reg 3 = 7 ∧ k.index = 0x1000 := by
  intro m k
  obtain ⟨h, t, u, hdigits, hstores, hback⟩ := execute_stores_digits m 0xF133 (by decide)
  have h254 : Digits (m.reg 1) 2 5 4 := ⟨by decide, by decide, by decide, by decide⟩
  obtain ⟨rfl, rfl, rfl⟩ := hdigits.unique h254
  obtain ⟨hhundreds, htens, hones, hindex, hothers⟩ :=
    hback (by decide) 0xF265 (by decide) (by decide)
  have hzero : m.memory.get 0xFFC = 0 := by decide +kernel
  have hbefore := hstores.kept 0xFFC (by decide)
  refine ⟨hstores.ones 0xFFF rfl, hbefore.trans hzero, hhundreds, htens, hones, ?_,
    UInt16.toNat_inj.1 hindex⟩
  have hkept : k.reg 3 = (m.execute 0xF133).reg 3 := hothers (.reg 3) nofun (by decide)
  exact hkept.trans (hstores.others (.reg 3) nofun)

end Chip8.Machine
