/-
  Chip8/Proofs/Transfer.lean
  ==========================
  **Block transfer** — registers 0 to `x` go to memory and come back exactly, wherever the index
  register points.

  A block that reaches past the end of memory is stored as far as memory goes, and loaded with the
  last byte in place of what is not there (`Stores`, `Loads`).  So a block that lies in memory and
  is left alone is loaded as it was stored (`reg_of_stores_of_loads`).
-/
import Chip8.Proofs.Footprint

namespace Chip8.Machine

variable {m m' k k' : Machine} {x : Reg}

/-! ### Storing -/

/-- The machine differs from the one before by a block of registers 0 to `x` in memory, and by the
    index register, which has moved past the block. -/
structure Stores (m m' : Machine) (x : Reg) : Prop where
  stored : ∀ (j : Reg) (a : Fin 4096), j ≤ x → a.val = m.index.toNat + j → m'.memory.get a = m.reg j
  kept : ∀ a : Fin 4096, ¬ (m.index.toNat ≤ a ∧ a ≤ min (m.index.toNat + x) 0xFFF) →
    m'.memory.get a = m.memory.get a
  index_eq : m'.index.toNat = (m.index.toNat + x + 1) % 65536
  others : ∀ p : Part, p ≠ .index → (∀ a, p ≠ .byte a) → p.Agrees m m'

theorem getD_firstRegs (m : Machine) {j : Reg} (h : j ≤ x) (b : UInt8) :
    (m.firstRegs x).getD j b = m.reg j := by
  have hj : j.val < x.val + 1 := Nat.lt_succ_of_le h
  rw [firstRegs, List.getD_eq_getElem?_getD, List.getElem?_take_of_lt hj]
  simp [reg]

theorem toNat_indexPast (m : Machine) (x : Reg) :
    (m.indexPast x).toNat = (m.index.toNat + x + 1) % 65536 := by
  have hx := x.isLt
  rw [indexPast, UInt16.toNat_add, UInt16.toNat_ofNat_of_lt' (by simp only [UInt16.size]; omega)]
  rfl

theorem stores_storeRegs (m : Machine) (x : Reg) :
    m.Stores ((Instruction.storeRegs x).execute m) x where
  stored j a hj ha := by
    change (Cells.writeAll m.memory m.index.toNat (m.firstRegs x))[a.val] = m.reg j
    have hoffset : a.val - m.index.toNat = j := by omega
    rw [Cells.getElem_writeAll, if_pos (by omega), hoffset, getD_firstRegs m hj]
  kept a ha := by
    have hbyte : (Part.byte a).Agrees m ((Instruction.storeRegs x).execute m) := by
      apply Instruction.execute_agrees
      rintro (h | ⟨b, h, hlow, hhigh⟩)
      · cases h
      · cases h
        omega
    exact hbyte
  index_eq := toNat_indexPast m x
  others p hindex hbyte := by
    apply Instruction.execute_agrees
    rintro (rfl | ⟨a, rfl, -⟩)
    · exact hindex rfl
    · exact hbyte a rfl

/-! ### Loading -/

/-- The machine differs from the one before by registers 0 to `x`, which hold a block of memory,
    and by the index register, which has moved past the block. -/
structure Loads (m m' : Machine) (x : Reg) : Prop where
  loaded : ∀ j : Reg, j ≤ x → m'.reg j = m.memory[min (m.index.toNat + j) 0xFFF]
  kept : ∀ j : Reg, x < j → m'.reg j = m.reg j
  index_eq : m'.index.toNat = (m.index.toNat + x + 1) % 65536
  others : ∀ p : Part, p ≠ .index → (∀ r, p ≠ .reg r) → p.Agrees m m'

theorem Loads.agrees (h : m.Loads m' x) {p : Part} (hindex : p ≠ .index)
    (hregs : ∀ r ≤ x, p ≠ .reg r) : p.Agrees m m' := by
  cases p with
  | reg r => exact h.kept r (Nat.lt_of_not_le fun hr => hregs r hr rfl)
  | _ => exact h.others _ hindex nofun

theorem loads_loadRegs (m : Machine) (x : Reg) :
    m.Loads ((Instruction.loadRegs x).execute m) x where
  loaded j hj := by
    change (m.regsFromMemory x)[j.val] = _
    rw [regsFromMemory, Vector.getElem_ofFn, if_pos hj]
    rfl
  kept j hj := by
    have hnot : ¬ j ≤ x := Nat.not_le.2 hj
    change (m.regsFromMemory x)[j.val] = _
    rw [regsFromMemory, Vector.getElem_ofFn, if_neg hnot]
  index_eq := toNat_indexPast m x
  others p hindex hreg := by
    apply Instruction.execute_agrees
    rintro (rfl | ⟨r, rfl, -⟩)
    · exact hindex rfl
    · exact hreg r rfl

/-- A word that loads a block, as it is read. -/
theorem loads_of_isMisc (m : Machine) {load : Int} (hload : (Opcode.ofWord load).IsMisc 0x65) :
    m.Loads (m.execute load) (Opcode.regX load) := by
  rw [execute, Instruction.ofWord_of_isMisc hload]
  exact loads_loadRegs m _

/-! ### Back again -/

/-- A block that lies in memory and is left alone is loaded as it was stored. -/
theorem reg_of_stores_of_loads (hstore : m.Stores m' x) (hload : k.Loads k' x)
    (hin : m.index.toNat + x ≤ 0xFFF) (hindex : k.index = m.index)
    (hblock : ∀ a : Fin 4096, m.index.toNat ≤ a → a ≤ m.index.toNat + x →
      k.memory.get a = m'.memory.get a) {j : Reg} (hj : j ≤ x) :
    k'.reg j = m.reg j := by
  have hjx : j.val ≤ x.val := hj
  have hlt : m.index.toNat + j < 4096 := by omega
  have hmin : min (m.index.toNat + j) 0xFFF = m.index.toNat + j := by omega
  have hbyte := hload.loaded j hj
  simp only [hindex, hmin] at hbyte
  rw [hbyte]
  exact (hblock ⟨m.index.toNat + j, hlt⟩ (by simp) (by simpa using hjx)).trans
    (hstore.stored j ⟨_, hlt⟩ hj rfl)

/-- **Block transfer is exact.**  A word that stores a block writes the registers to the bytes that
    there are and changes no other; a word that loads one reads bytes past the end of memory as
    the last byte; both move the index register past the block.  A block that lies in memory is
    therefore loaded as it was stored, whatever happens in between, if that leaves the block alone
    and sets the index register back. -/
theorem execute_transfers (m : Machine) :
    (∀ store, (Opcode.ofWord store).IsMisc 0x55 →
      m.Stores (m.execute store) (Opcode.regX store)) ∧
    (∀ load, (Opcode.ofWord load).IsMisc 0x65 → m.Loads (m.execute load) (Opcode.regX load)) ∧
    ∀ store load, (Opcode.ofWord store).IsMisc 0x55 → (Opcode.ofWord load).IsMisc 0x65 →
      Opcode.regX load = Opcode.regX store → m.index.toNat + Opcode.regX store ≤ 0xFFF →
      ∀ k : Machine, k.index = m.index →
        (∀ a : Fin 4096, m.index.toNat ≤ a → a ≤ m.index.toNat + Opcode.regX store →
          k.memory.get a = (m.execute store).memory.get a) →
        ∀ j ≤ Opcode.regX store, (k.execute load).reg j = m.reg j := by
  have hstores : ∀ store, (Opcode.ofWord store).IsMisc 0x55 →
      m.Stores (m.execute store) (Opcode.regX store) := by
    intro store hstore
    rw [execute, Instruction.ofWord_of_isMisc hstore]
    exact stores_storeRegs m _
  refine ⟨hstores, fun load => loads_of_isMisc m, ?_⟩
  intro store load hstore hload hreg hin k hindex hblock j hj
  have hback := loads_of_isMisc k hload
  rw [hreg] at hback
  exact reg_of_stores_of_loads (hstores store hstore) hback hin hindex hblock hj

/-- Registers 0 to 3 are stored in the last four bytes of memory, wiped, and loaded again. -/
theorem execute_transfers_at_end :
    let m : Machine :=
      { initial ⟨0, 0⟩ with
        index := 0xFFC
        regs := ((Vector.replicate 16 0).setIfInBounds 0 9).setIfInBounds 3 7 }
    let k : Machine := { m.execute 0xF355 with index := 0xFFC, regs := Vector.replicate 16 0 }
    (m.execute 0xF355).memory.get 0xFFF = 7 ∧ (m.execute 0xF355).index = 0x1000 ∧
      (k.execute 0xF365).reg 0 = 9 ∧ (k.execute 0xF365).reg 3 = 7 := by
  intro m k
  have hstore : (Opcode.ofWord 0xF355).IsMisc 0x55 := by decide
  have hload : (Opcode.ofWord 0xF365).IsMisc 0x65 := by decide
  obtain ⟨hstores, -, hback⟩ := execute_transfers m
  have hstored := hstores 0xF355 hstore
  have hregs := hback 0xF355 0xF365 hstore hload rfl (by decide) k rfl fun a _ _ => rfl
  refine ⟨?_, ?_, ?_, ?_⟩
  · exact hstored.stored 3 0xFFF (by decide) rfl
  · exact UInt16.toNat_inj.1 hstored.index_eq
  · exact hregs 0 (by decide)
  · exact hregs 3 (by decide)

end Chip8.Machine
