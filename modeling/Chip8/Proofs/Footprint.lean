/-
  Chip8/Proofs/Footprint.lean
  ===========================
  **What a step may change** — the machine is cut into parts, every instruction
  has the list of parts that it writes, and everything else is as it was.

  The list is given twice: `Instruction.Writes` by constructor, next to which the
  frame is proved, and `Opcode.Writes` by part, in terms of the word that ran.  The
  second is what `step_footprint` is about; the table of `Encoding` leads from one
  to the other.
-/
import Chip8.Proofs.Encoding
import Chip8.Proofs.Stepping

namespace Chip8

/-- Cells outside a written block are as they were. -/
theorem Cells.getElem_writeAll_of_not_mem {α : Type} {n i : Nat} (v : Vector α n) {as : List α}
    {j : Fin n} (h : ¬ (i ≤ j ∧ j < i + as.length)) : (writeAll v i as)[j] = v[j] := by
  change (writeAll v i as)[j.val] = v[j.val]
  rw [getElem_writeAll]
  split
  · rw [List.getD_eq_getElem?_getD, List.getElem?_eq_none (by omega), Option.getD_none]
  · rfl

/-! ### Parts of a machine -/

/-- The parts of a machine that change one by one: bytes and registers are parts
    of their own, a call stack and a screen are not taken apart. -/
inductive Part where
  | byte (a : Fin 4096)
  | reg (r : Reg)
  | index
  | pc
  | stack
  | delay
  | sound
  | keypad
  | screen
  | dirty
  | rng
  deriving DecidableEq, Repr

namespace Part

/-- Two machines have the same in a part. -/
def Agrees (m m' : Machine) : Part → Prop
  | byte a => m'.memory[a] = m.memory[a]
  | reg r => m'.reg r = m.reg r
  | index => m'.index = m.index
  | pc => m'.pc = m.pc
  | stack => m'.stack = m.stack
  | delay => m'.delay = m.delay
  | sound => m'.sound = m.sound
  | keypad => m'.keypad = m.keypad
  | screen => m'.screen = m.screen
  | dirty => m'.dirty = m.dirty
  | rng => m'.rng = m.rng

theorem Agrees.refl (m : Machine) (p : Part) : p.Agrees m m := by
  cases p <;> rfl

theorem Agrees.symm {m m' : Machine} {p : Part} (h : p.Agrees m m') : p.Agrees m' m := by
  cases p <;> exact Eq.symm h

theorem Agrees.trans {m m' m'' : Machine} {p : Part} (h : p.Agrees m m') (h' : p.Agrees m' m'') :
    p.Agrees m m'' := by
  cases p <;> exact Eq.trans h' h

/-- Machines that have the same in every part are the same. -/
theorem eq_of_agrees {m m' : Machine} (h : ∀ p : Part, p.Agrees m m') : m' = m := by
  have hmemory : m'.memory = m.memory := by
    refine Vector.ext fun i hi => ?_
    exact h (.byte ⟨i, hi⟩)
  have hregs : m'.regs = m.regs := by
    refine Vector.ext fun i hi => ?_
    exact h (.reg ⟨i, hi⟩)
  cases m
  cases m'
  congr
  · exact h .index
  · exact h .pc
  · exact h .stack
  · exact h .delay
  · exact h .sound
  · exact h .keypad
  · exact h .screen
  · exact h .dirty
  · exact h .rng

/-! ### Updates of one part -/

variable {m : Machine} {p : Part}

theorem agrees_setReg {x : Reg} (h : p ≠ .reg x) (b : UInt8) : p.Agrees m (m.setReg x b) := by
  cases p with
  | reg r =>
    have hne : x.val ≠ r.val := fun hxr => h (congrArg Part.reg (Fin.ext hxr.symm))
    exact Vector.getElem_set_ne x.isLt r.isLt hne
  | _ => rfl

theorem agrees_setFlag (h : p ≠ .reg flagReg) (b : Bool) : p.Agrees m (m.setFlag b) :=
  agrees_setReg h _

theorem agrees_pc (h : p ≠ .pc) (a : UInt16) : p.Agrees m { m with pc := a } := by
  cases p with
  | pc => exact absurd rfl h
  | _ => rfl

theorem agrees_index (h : p ≠ .index) (a : UInt16) : p.Agrees m { m with index := a } := by
  cases p with
  | index => exact absurd rfl h
  | _ => rfl

theorem agrees_memory (h : ∀ a, p ≠ .byte a) (memory : Memory) :
    p.Agrees m { m with memory := memory } := by
  cases p with
  | byte a => exact absurd rfl (h a)
  | _ => rfl

theorem agrees_skipIf (h : p ≠ .pc) (b : Bool) : p.Agrees m (m.skipIf b) := by
  cases b with
  | false => exact Agrees.refl m p
  | true => exact agrees_pc h _

theorem agrees_writeAll {bytes : List UInt8}
    (h : ∀ a : Fin 4096, p = .byte a → ¬ (m.index.toNat ≤ a ∧ a < m.index.toNat + bytes.length)) :
    p.Agrees m { m with memory := Cells.writeAll m.memory m.index.toNat bytes } := by
  cases p with
  | byte a =>
    exact Cells.getElem_writeAll_of_not_mem _ (h a rfl)
  | _ => rfl

theorem agrees_tickIf {m' : Machine} (h : p.Agrees m m') (decay : Bool) :
    p.Agrees (m.tickIf decay) (m'.tickIf decay) := by
  cases decay with
  | false => exact h
  | true =>
    cases p with
    | delay => exact congrArg Machine.countDown h
    | sound => exact congrArg Machine.countDown h
    | _ => exact h

end Part

/-! ### The parts that an instruction writes -/

namespace AluOp

/-- The operation sets the flag register. -/
def setsFlag : AluOp → Bool
  | copy | or | and | xor => false
  | add | sub | halve | subFrom | double => true

theorem flag?_eq_none {op : AluOp} (h : op.setsFlag = false) (a b : UInt8) :
    op.flag? a b = none := by
  cases op <;> first | rfl | cases h

theorem nibble_mem_of_setsFlag (op : AluOp) :
    op.setsFlag = true → op.nibble ∈ [0x4, 0x5, 0x6, 0x7, 0xE] := by
  cases op <;> decide

end AluOp

namespace Instruction

/-- The parts that an instruction may write when the index register holds
    `index`.  What it writes into them may be what was there before. -/
def Writes (index : Nat) (p : Part) : Instruction → Prop
  | idle => False
  | clear => p = .screen ∨ p = .dirty
  | ret | call _ => p = .pc ∨ p = .stack
  | jump _ | jumpPlus _ => p = .pc
  | skipEq .. | skipNe .. | skipEqReg .. | skipNeReg .. | skipHeld _ | skipFree _ => p = .pc
  | load x _ | addConst x _ | getDelay x => p = .reg x
  | alu op x _ => p = .reg x ∨ op.setsFlag = true ∧ p = .reg flagReg
  | setIndex _ | digitSprite _ => p = .index
  | random x _ => p = .reg x ∨ p = .rng
  | draw .. => p = .screen ∨ p = .dirty ∨ p = .reg flagReg
  | awaitKey x => p = .reg x ∨ p = .pc
  | setDelay _ => p = .delay
  | setSound _ => p = .sound
  | addIndex _ => p = .index ∨ p = .reg flagReg
  | storeDigits _ => ∃ a : Fin 4096, p = .byte a ∧ index ≤ a ∧ a ≤ index + 2
  | storeRegs x => p = .index ∨ ∃ a : Fin 4096, p = .byte a ∧ index ≤ a ∧ a ≤ index + x
  | loadRegs x => p = .index ∨ ∃ r : Reg, p = .reg r ∧ r ≤ x

/-- **The frame of an instruction**: what it does not write is as it was. -/
theorem execute_agrees (m : Machine) (i : Instruction) {p : Part}
    (h : ¬ i.Writes m.index.toNat p) : p.Agrees m (i.execute m) := by
  cases i with
  | idle => exact Part.Agrees.refl m p
  | clear =>
    obtain ⟨hscreen, hdirty⟩ := not_or.1 h
    cases p with
    | screen => exact absurd rfl hscreen
    | dirty => exact absurd rfl hdirty
    | _ => rfl
  | ret =>
    obtain ⟨hpc, hstack⟩ := not_or.1 h
    cases p with
    | pc => exact absurd rfl hpc
    | stack => exact absurd rfl hstack
    | _ => rfl
  | call nnn =>
    obtain ⟨hpc, hstack⟩ := not_or.1 h
    cases p with
    | pc => exact absurd rfl hpc
    | stack => exact absurd rfl hstack
    | _ => rfl
  | jump nnn => exact Part.agrees_pc h _
  | jumpPlus nnn => exact Part.agrees_pc h _
  | skipEq x nn => exact Part.agrees_skipIf h _
  | skipNe x nn => exact Part.agrees_skipIf h _
  | skipEqReg x y => exact Part.agrees_skipIf h _
  | skipNeReg x y => exact Part.agrees_skipIf h _
  | skipHeld x => exact Part.agrees_skipIf h _
  | skipFree x => exact Part.agrees_skipIf h _
  | load x nn => exact Part.agrees_setReg h _
  | addConst x nn => exact Part.agrees_setReg h _
  | getDelay x => exact Part.agrees_setReg h _
  | alu op x y =>
    obtain ⟨hreg, hflag⟩ := not_or.1 h
    have hresult : p.Agrees m (m.setReg x (op.result (m.reg x) (m.reg y))) :=
      Part.agrees_setReg hreg _
    simp only [execute, Machine.combine]
    cases hsets : op.setsFlag with
    | false => simpa only [AluOp.flag?_eq_none hsets] using hresult
    | true =>
      have hflag : p ≠ .reg flagReg := fun hp => hflag ⟨hsets, hp⟩
      split
      · exact hresult.trans (Part.agrees_setFlag hflag _)
      · exact hresult
  | setIndex nnn => exact Part.agrees_index h _
  | digitSprite x => exact Part.agrees_index h _
  | random x nn =>
    obtain ⟨hreg, hrng⟩ := not_or.1 h
    have hresult := Part.agrees_setReg (m := m) hreg (m.rng.byte &&& nn)
    cases p with
    | rng => exact absurd rfl hrng
    | _ => exact hresult
  | draw x y n =>
    obtain ⟨hscreen, hrest⟩ := not_or.1 h
    obtain ⟨hdirty, hflag⟩ := not_or.1 hrest
    refine Part.Agrees.trans ?_ (Part.agrees_setFlag hflag _)
    cases p with
    | screen => exact absurd rfl hscreen
    | dirty => exact absurd rfl hdirty
    | _ => rfl
  | awaitKey x =>
    obtain ⟨hreg, hpc⟩ := not_or.1 h
    simp only [execute]
    split
    · exact Part.agrees_setReg hreg _
    · exact Part.agrees_pc hpc _
  | setDelay x =>
    cases p with
    | delay => exact absurd rfl h
    | _ => rfl
  | setSound x =>
    cases p with
    | sound => exact absurd rfl h
    | _ => rfl
  | addIndex x =>
    obtain ⟨hindex, hflag⟩ := not_or.1 h
    exact (Part.agrees_index hindex _).trans (Part.agrees_setFlag hflag _)
  | storeDigits x =>
    refine Part.agrees_writeAll fun a ha hin => h ⟨a, ha, hin.1, ?_⟩
    have hlength : (Machine.decimalDigits (m.reg x)).length = 3 := rfl
    omega
  | storeRegs x =>
    obtain ⟨hindex, hbyte⟩ := not_or.1 h
    have hlength : (m.firstRegs x).length = x.val + 1 := by
      simp only [Machine.firstRegs, List.length_take, Vector.length_toList]
      omega
    have hmemory : p.Agrees m
        { m with memory := Cells.writeAll m.memory m.index.toNat (m.firstRegs x) } :=
      Part.agrees_writeAll fun a ha hin => hbyte ⟨a, ha, hin.1, by omega⟩
    exact hmemory.trans (Part.agrees_index hindex _)
  | loadRegs x =>
    obtain ⟨hindex, hreg⟩ := not_or.1 h
    have hregs : p.Agrees m { m with regs := m.regsFromMemory x } := by
      cases p with
      | reg r =>
        have hr : ¬ r ≤ x := fun hr => hreg ⟨r, rfl, hr⟩
        simp [Part.Agrees, Machine.reg, Machine.regsFromMemory, hr]
      | _ => rfl
    exact hregs.trans (Part.agrees_index hindex _)

end Instruction

/-! ### The parts that a word writes -/

namespace Opcode

/-- The parts that a step on a word may write when the index register holds
    `index`, part by part.  The timers also count down, which is not the word's doing. -/
def Writes (o : Opcode) (index : Nat) : Part → Prop
  | .byte a =>
    o.IsMisc 0x33 ∧ index ≤ a ∧ a ≤ index + 2 ∨ o.IsMisc 0x55 ∧ index ≤ a ∧ a ≤ index + o.x
  | .reg r =>
    r.val = o.x ∧ (o.family ∈ [0x6, 0x7, 0x8, 0xC] ∨ o.IsMisc 0x07 ∨ o.IsMisc 0x0A) ∨
      r.val ≤ o.x ∧ o.IsMisc 0x65 ∨
      r = flagReg ∧ (o.family = 0x8 ∧ o.n ∈ [0x4, 0x5, 0x6, 0x7, 0xE] ∨ o.IsMisc 0x1E ∨
        o.family = 0xD)
  | .index =>
    o.family = 0xA ∨ o.IsMisc 0x1E ∨ o.IsMisc 0x29 ∨ o.IsMisc 0x55 ∨ o.IsMisc 0x65
  | .pc => True
  | .stack => o.family = 0x2 ∨ o.raw = 0x00EE
  | .delay => o.IsMisc 0x15
  | .sound => o.IsMisc 0x18
  | .keypad => False
  | .screen | .dirty => o.raw = 0x00E0 ∨ o.family = 0xD
  | .rng => o.family = 0xC

end Opcode

/-- What an instruction writes is listed for every word that it is read from. -/
theorem Instruction.Fits.writes {o : Opcode} {i : Instruction} (hfits : i.Fits o) {index : Nat}
    {p : Part} (h : i.Writes index p) : o.Writes index p := by
  cases i with
  | idle => exact h.elim
  | clear => rcases h with rfl | rfl <;> exact Or.inl hfits
  | ret =>
    rcases h with rfl | rfl
    · trivial
    · exact Or.inr hfits
  | call nnn =>
    rcases h with rfl | rfl
    · trivial
    · exact Or.inl hfits.1
  | jump | jumpPlus | skipEq | skipNe | skipEqReg | skipNeReg | skipHeld | skipFree =>
    subst h
    trivial
  | load x nn | addConst x nn =>
    subst h
    exact Or.inl ⟨hfits.2.1, Or.inl (by simp [hfits.1])⟩
  | getDelay x =>
    subst h
    exact Or.inl ⟨hfits.2, Or.inr (Or.inl hfits.1)⟩
  | alu op x y =>
    obtain ⟨hfamily, hx, -, hn⟩ := hfits
    rcases h with rfl | ⟨hsets, rfl⟩
    · exact Or.inl ⟨hx, Or.inl (by simp [hfamily])⟩
    · refine Or.inr (Or.inr ⟨rfl, Or.inl ⟨hfamily, ?_⟩⟩)
      exact hn ▸ op.nibble_mem_of_setsFlag hsets
  | setIndex nnn =>
    subst h
    exact Or.inl hfits.1
  | digitSprite x =>
    subst h
    exact Or.inr (Or.inr (Or.inl hfits.1))
  | random x nn =>
    rcases h with rfl | rfl
    · exact Or.inl ⟨hfits.2.1, Or.inl (by simp [hfits.1])⟩
    · exact hfits.1
  | draw x y n =>
    rcases h with rfl | rfl | rfl
    · exact Or.inr hfits.1
    · exact Or.inr hfits.1
    · exact Or.inr (Or.inr ⟨rfl, Or.inr (Or.inr hfits.1)⟩)
  | awaitKey x =>
    rcases h with rfl | rfl
    · exact Or.inl ⟨hfits.2, Or.inr (Or.inr hfits.1)⟩
    · trivial
  | setDelay x | setSound x =>
    subst h
    exact hfits.1
  | addIndex x =>
    rcases h with rfl | rfl
    · exact Or.inr (Or.inl hfits.1)
    · exact Or.inr (Or.inr ⟨rfl, Or.inr (Or.inl hfits.1)⟩)
  | storeDigits x =>
    obtain ⟨a, rfl, hin⟩ := h
    exact Or.inl ⟨hfits.1, hin⟩
  | storeRegs x =>
    rcases h with rfl | ⟨a, rfl, hlow, hhigh⟩
    · exact Or.inr (Or.inr (Or.inr (Or.inl hfits.1)))
    · exact Or.inr ⟨hfits.1, hlow, hfits.2 ▸ hhigh⟩
  | loadRegs x =>
    rcases h with rfl | ⟨r, rfl, hr⟩
    · exact Or.inr (Or.inr (Or.inr (Or.inr hfits.1)))
    · exact Or.inr (Or.inl ⟨hfits.2 ▸ hr, hfits.1⟩)

/-! ### The frame of a step -/

namespace Machine

variable {m m' : Machine} {decay : Bool} {p : Part}

/-- A word that has run left everything outside its footprint to the timers. -/
theorem ran_agrees (h : ¬ (Opcode.ofWord m.peek).Writes m.index.toNat p) :
    p.Agrees (m.tickIf decay) (m.ran decay) := by
  refine Part.agrees_tickIf ?_ decay
  have hpc : p ≠ .pc := by
    rintro rfl
    exact h trivial
  have hexec : p.Agrees m.advance (m.advance.execute m.peek) :=
    Instruction.execute_agrees _ _ fun hw => h ((Instruction.fits_ofWord _).writes hw)
  exact (Part.agrees_pc hpc _).trans hexec

/-- **The write footprint of the instruction set.**  Apart from the parts that the
    word writes, a step that completes only lets the timers count down, and that
    only if it is asked to. -/
theorem step_footprint (h : m.step decay = .ok ⟨m', true⟩)
    (hp : ¬ (Opcode.ofWord m.peek).Writes m.index.toNat p) :
    p.Agrees (m.tickIf decay) m' := by
  obtain ⟨-, -, -, rfl⟩ := step_eq_completed_iff.1 h
  exact ran_agrees hp

/-- Registers 0 to 3 are stored at the very end of memory: the byte before the
    block stays, and only two of the four bytes have a place. -/
theorem step_footprint_at_end :
    let m : Machine :=
      { initial ⟨0, 0⟩ with
        memory := Cells.writeAll Memory.withFont 0x200 [0xF3, 0x55], index := 0xFFE, delay := 1 }
    m.step true = .ok ⟨m.ran true, true⟩ ∧ (Part.byte 0xFFD).Agrees (m.tickIf true) (m.ran true) := by
  intro m
  have hpeek : m.peek = 0xF355 := by decide +kernel
  have hstep : m.step true = .ok ⟨m.ran true, true⟩ := by
    rw [step_eq_completed_iff, hpeek]
    exact ⟨by decide, ⟨by decide, by decide, by decide⟩, by decide, rfl⟩
  have hout : ¬ (Opcode.ofWord m.peek).Writes m.index.toNat (.byte 0xFFD) := by
    rw [hpeek]
    simp only [Opcode.Writes]
    decide
  exact ⟨hstep, step_footprint hstep hout⟩

end Machine

end Chip8
