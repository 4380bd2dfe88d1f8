/-
  Chip8/Proofs/Bounds.lean
  ========================
  **The program counter never wraps** — in every state that a host can bring about it is at
  most 0x10FE, and no sum that a step forms with it leaves sixteen bits.

  The bound does not follow from itself: a return continues at whatever the call stack
  holds.  So it is carried along with a bound on the entries (`Bounded`), which are
  addresses after a call that was fetched inside memory; a jump adds at most a byte to a
  twelve-bit constant, and everything else moves on from an address inside memory.
  Along with both goes that the cells of the screen are 0 or 1: a draw combines their bytes with
  those of a sprite, which are.
  `Instruction.target` says where an instruction goes on by sums that do not wrap, and
  `pc_ran` that this is where it goes.
-/
import Chip8.Proofs.Calls
import Chip8.Proofs.Drawing

namespace Chip8

/-! ### Where an instruction goes on -/

namespace Instruction

/-- The next instruction is skipped. -/
def skips (m : Machine) : Instruction → Bool
  | skipEq x nn => m.reg x == nn
  | skipNe x nn => m.reg x != nn
  | skipEqReg x y => m.reg x == m.reg y
  | skipNeReg x y => m.reg x != m.reg y
  | skipHeld x => m.keyHeld x
  | skipFree x => !m.keyHeld x
  | _ => false

/-- The address at which a machine goes on after an instruction, by sums that do not wrap. -/
def target (m : Machine) : Instruction → Nat
  | ret => m.stack.pop.1.toNat
  | jump nnn | call nnn => nnn
  | jumpPlus nnn => nnn + (m.reg jumpReg).toNat
  | i => m.pc.toNat + 2 + if i.skips m then 2 else 0

end Instruction

theorem toNat_ofNat_address (nnn : Address) : (UInt16.ofNat nnn).toNat = nnn := by
  have hnnn := nnn.isLt
  exact UInt16.toNat_ofNat_of_lt' (by simp only [UInt16.size]; omega)

theorem toNat_address_add_byte (nnn : Address) (b : UInt8) :
    (UInt16.ofNat nnn + b.toUInt16).toNat = nnn + b.toNat := by
  have hnnn := nnn.isLt
  have hb := b.toNat_lt
  rw [UInt16.toNat_add, toNat_ofNat_address, UInt8.toNat_toUInt16]
  omega

namespace Machine

variable {m m' : Machine} {decay : Bool}

theorem pc_advance (hpc : m.pc.toNat + 1 < Memory.size) : m.advance.pc.toNat = m.pc.toNat + 2 := by
  have hpc : m.pc.toNat + 1 < 4096 := hpc
  have htwo : (2 : UInt16).toNat = 2 := rfl
  rw [advance, UInt16.toNat_add, htwo]
  omega

theorem pc_advance_skipIf (hpc : m.pc.toNat + 1 < Memory.size) (b : Bool) :
    (m.advance.skipIf b).pc.toNat = m.pc.toNat + 2 + if b then 2 else 0 := by
  have hnext := pc_advance hpc
  have hpc : m.pc.toNat + 1 < 4096 := hpc
  have htwo : (2 : UInt16).toNat = 2 := rfl
  rw [pc_skipIf]
  cases b with
  | false => simpa using hnext
  | true =>
    simp only [if_true]
    rw [UInt16.toNat_add, hnext, htwo]
    omega

/-- **An instruction goes on at its target**, unless it waits for a key. -/
theorem pc_execute (i : Instruction) (hpc : m.pc.toNat + 1 < Memory.size)
    (hkey : ∀ x, i = .awaitKey x → m.keypad.anyDown = true) :
    (i.execute m.advance).pc.toNat = i.target m := by
  have hnext := pc_advance hpc
  have hkept : ¬ i.Writes m.advance.index.toNat .pc →
      (i.execute m.advance).pc.toNat = m.pc.toNat + 2 := by
    intro hw
    have hsame : (i.execute m.advance).pc = m.advance.pc := i.execute_agrees m.advance hw
    rw [hsame, hnext]
  cases i with
  | ret => rfl
  | jump nnn | call nnn => exact toNat_ofNat_address nnn
  | jumpPlus nnn => exact toNat_address_add_byte nnn _
  | skipEq | skipNe | skipEqReg | skipNeReg | skipHeld | skipFree => exact pc_advance_skipIf hpc _
  | awaitKey x =>
    have hdown : m.advance.keypad.anyDown = true := hkey x rfl
    simp only [Instruction.execute]
    split
    · exact hnext
    · next hnone =>
      rw [Keypad.lowest?_eq_none_iff, hdown] at hnone
      cases hnone
  | idle | clear | load | addConst | alu | setIndex | random | draw | getDelay | setDelay
  | setSound | addIndex | digitSprite | storeDigits | storeRegs | loadRegs =>
    apply hkept
    simp [Instruction.Writes]

/-- A word that asks for a key and runs has found one. -/
theorem anyDown_of_not_waitsOn {word : Int} (h : m.waitsOn word = false) {x : Reg}
    (hword : Instruction.ofWord word = .awaitKey x) : m.keypad.anyDown = true := by
  have hfits := Instruction.fits_ofWord word
  rw [hword] at hfits
  obtain ⟨⟨hfamily, hnn⟩, -⟩ := hfits
  simpa [waitsOn, hfamily, hnn] using h

theorem pc_ran (hstep : m.step decay = .ok ⟨m', true⟩) :
    m'.pc.toNat = (Instruction.ofWord m.peek).target m := by
  obtain ⟨hpc, -, hwaits, rfl⟩ := step_eq_completed_iff.1 hstep
  rw [ran, pc_tickIf, execute]
  apply pc_execute _ hpc
  intro x hx
  exact anyDown_of_not_waitsOn hwaits hx

end Machine

/-! ### Entries of the call stack -/

namespace CallStack

variable {s : CallStack} {a : UInt16} {bound : Nat}

/-- No entry is above a bound. -/
def AtMost (s : CallStack) (bound : Nat) : Prop :=
  ∀ (i : Nat) (hi : i < 16), s.entries[i].toNat ≤ bound

theorem toNat_getElem_setEntry (h : s.AtMost bound) (ha : a.toNat ≤ bound) (slot : Int)
    (i : Nat) (hi : i < 16) : (setEntry s.entries slot a)[i].toNat ≤ bound := by
  rw [setEntry]
  split
  · rw [Cells.getElem_write]
    split
    · exact ha
    · exact h i hi
  · exact h i hi

theorem AtMost.push (h : s.AtMost bound) (ha : a.toNat ≤ bound) : (s.push a).AtMost bound := by
  intro i hi
  exact toNat_getElem_setEntry h ha _ i hi

theorem AtMost.pop (h : s.AtMost bound) : s.pop.1.toNat ≤ bound ∧ s.pop.2.AtMost bound := by
  constructor
  · exact h _ (by omega)
  · have hzero : (0 : UInt16).toNat ≤ bound := Nat.zero_le bound
    intro i hi
    exact toNat_getElem_setEntry h hzero _ i hi

end CallStack

/-! ### The invariant -/

namespace Machine

variable {m m' : Machine} {decay : Bool}

/-- The program counter, the entries of the call stack and the cells of the screen are in their
    ranges. -/
structure Bounded (m : Machine) : Prop where
  pc : m.pc.toNat ≤ 0x10FE
  entries : m.stack.AtMost 0x1000
  cells : m.screen.IsBinary

theorem bounded_initial (rng : Random.Key) : (initial rng).Bounded := by
  constructor
  · change (UInt16.ofNat Memory.programStart).toNat ≤ 0x10FE
    decide
  · intro i hi
    simp [initial, CallStack.empty]
  · exact Screen.isBinary_blank

theorem target_le (h : m.Bounded) (hpc : m.pc.toNat + 1 < Memory.size) (i : Instruction) :
    i.target m ≤ 0x10FE := by
  have hpc : m.pc.toNat + 1 < 4096 := hpc
  have hmoved : ∀ b : Bool, m.pc.toNat + 2 + (if b then 2 else 0) ≤ 0x10FE := by
    intro b
    cases b <;> simp <;> omega
  cases i with
  | ret => exact Nat.le_trans h.entries.pop.1 (by decide)
  | jump nnn | call nnn =>
    have hnnn := nnn.isLt
    simp only [Instruction.target]
    omega
  | jumpPlus nnn =>
    have hnnn := nnn.isLt
    have hbyte := (m.reg jumpReg).toNat_lt
    simp only [Instruction.target]
    omega
  | _ => exact hmoved _

/-- A call adds the address after it, a return takes one off, and nothing else touches the
    call stack. -/
theorem stack_ran (m : Machine) (decay : Bool) :
    (m.ran decay).stack = m.stack.push (m.pc + 2) ∨ (m.ran decay).stack = m.stack.pop.2 ∨
      (m.ran decay).stack = m.stack := by
  by_cases hcall : (Opcode.ofWord m.peek).family = 0x2
  · exact Or.inl (stack_ran_of_call hcall)
  by_cases hret : m.peek = 0x00EE
  · exact Or.inr (Or.inl (ran_of_return hret).1)
  · have hsame : Part.stack.Agrees (m.tickIf decay) (m.ran decay) := by
      apply ran_agrees
      rintro (hw | hw)
      · exact hcall hw
      · exact hret (Int.ofNat_inj.1 hw)
    exact Or.inr (Or.inr (Eq.trans hsame (stack_tickIf m decay)))

/-- An instruction wipes the screen, lays a sprite over it or leaves it alone. -/
theorem screen_execute (m : Machine) (i : Instruction) :
    (i.execute m).screen = Screen.blank ∨
      (∃ x0 y0 n, (i.execute m).screen = m.screen.overlay (m.sprite x0 y0 n)) ∨
      (i.execute m).screen = m.screen := by
  have hkept : ¬ i.Writes m.index.toNat .screen → (i.execute m).screen = m.screen :=
    fun hw => i.execute_agrees m hw
  cases i with
  | clear => exact Or.inl rfl
  | draw x y n => exact Or.inr (Or.inl ⟨_, _, _, rfl⟩)
  | _ =>
    refine Or.inr (Or.inr (hkept ?_))
    simp [Instruction.Writes]

theorem isBinary_screen_ran (h : m.screen.IsBinary) (decay : Bool) :
    (m.ran decay).screen.IsBinary := by
  rw [ran, screen_tickIf, execute]
  rcases screen_execute m.advance (Instruction.ofWord m.peek) with
    hwiped | ⟨x0, y0, n, hdrawn⟩ | hkept
  · rw [hwiped]
    exact Screen.isBinary_blank
  · rw [hdrawn]
    exact h.overlay (isBinary_sprite _ x0 y0 n)
  · rw [hkept]
    exact h

theorem bounded_ran (h : m.Bounded) (hstep : m.step decay = .ok ⟨m', true⟩) : m'.Bounded := by
  have hpc' := pc_ran hstep
  obtain ⟨hpc, -, -, rfl⟩ := step_eq_completed_iff.1 hstep
  constructor
  · rw [hpc']
    exact target_le h hpc _
  · have hreturn : (m.pc + 2).toNat ≤ 0x1000 := by
      have hnext : (m.pc + 2).toNat = m.pc.toNat + 2 := pc_advance hpc
      have hpc : m.pc.toNat + 1 < 4096 := hpc
      omega
    rcases stack_ran m decay with hstack | hstack | hstack
    · rw [hstack]
      exact h.entries.push hreturn
    · rw [hstack]
      exact h.entries.pop.2
    · rw [hstack]
      exact h.entries
  · exact isBinary_screen_ran h.cells decay

theorem bounded_perform (h : m.Bounded) (op : Operation) : (m.perform op).Bounded := by
  cases hdone : m.completes op with
  | true =>
    obtain ⟨decay, rfl, hstep, hperform⟩ := perform_of_completes hdone
    rw [hperform]
    exact bounded_ran h hstep
  | false =>
    -- a host writes neither the counter nor the call stack nor the screen
    have hpc : (m.perform op).pc = m.pc := by
      apply perform_agrees (p := .pc) hdone
      cases op <;> simp [Operation.Writes]
    have hstack : (m.perform op).stack = m.stack := by
      apply perform_agrees (p := .stack) hdone
      cases op <;> simp [Operation.Writes]
    have hscreen : (m.perform op).screen = m.screen := by
      apply perform_agrees (p := .screen) hdone
      cases op <;> simp [Operation.Writes]
    constructor
    · rw [hpc]
      exact h.pc
    · rw [hstack]
      exact h.entries
    · rw [hscreen]
      exact h.cells

theorem bounded_performAll (h : m.Bounded) (ops : List Operation) : (m.performAll ops).Bounded := by
  induction ops generalizing m with
  | nil => exact h
  | cons op ops ih =>
    rw [performAll_cons]
    exact ih (bounded_perform h op)

/-! ### Fetching -/

/-- Inside memory, the two bytes of a word are the one that the counter points at and the
    one after it. -/
theorem peek_eq (h : m.pc.toNat + 1 < 4096) :
    (m.pc + 1).toNat = m.pc.toNat + 1 ∧
      m.peek = 256 * m.memory[m.pc.toNat].toNat + m.memory[m.pc.toNat + 1].toNat := by
  have hone : (1 : UInt16).toNat = 1 := rfl
  have hnext : (m.pc + 1).toNat = m.pc.toNat + 1 := by
    rw [UInt16.toNat_add, hone]
    omega
  refine ⟨hnext, ?_⟩
  rw [peek, wordAt, hnext, byteAt, byteAt, Cells.read_of_lt _ h,
    Cells.read_of_lt _ (Nat.lt_of_succ_lt h)]

/-- **The program counter never wraps.**  In every state that a host can reach, counter,
    return addresses and cells of the screen are in their ranges; a step that completes moves on
    to the next word and then to the target of its instruction without wrapping; and a step whose
    word does not lie inside memory is refused before it is fetched. -/
theorem counter_never_wraps (rng : Random.Key) (ops : List Operation) :
    let m := (initial rng).performAll ops
    (m.pc.toNat ≤ 0x10FE ∧ (∀ (i : Nat) (hi : i < 16), m.stack.entries[i].toNat ≤ 0x1000) ∧
      ∀ (i : Nat) (hi : i < 2048), m.screen[i] = 0 ∨ m.screen[i] = 1) ∧
    (∀ decay m', m.step decay = .ok ⟨m', true⟩ →
      m.advance.pc.toNat = m.pc.toNat + 2 ∧
      m'.pc.toNat = (Instruction.ofWord m.peek).target m) ∧
    ∀ decay, m.step decay = .error (.fetchOutOfMemory m.pc.toNat) ∨
      ∃ _ : m.pc.toNat + 1 < 4096, (m.pc + 1).toNat = m.pc.toNat + 1 ∧
        m.peek = 256 * m.memory[m.pc.toNat].toNat + m.memory[m.pc.toNat + 1].toNat := by
  intro m
  have h : m.Bounded := bounded_performAll (bounded_initial rng) ops
  refine ⟨⟨h.pc, h.entries, h.cells⟩, ?_, ?_⟩
  · intro decay m' hstep
    have hpc' := pc_ran hstep
    obtain ⟨hpc, -, -, rfl⟩ := step_eq_completed_iff.1 hstep
    exact ⟨pc_advance hpc, hpc'⟩
  · intro decay
    by_cases hpc : m.pc.toNat + 1 < 4096
    · exact Or.inr ⟨hpc, peek_eq hpc⟩
    · exact Or.inl (Stepped.outside (Nat.le_of_not_lt hpc)).eq

/-- The bound is reached: a jump to 0xFFF with 255 in register 0 continues at 0x10FE, where the
    next step is refused. -/
theorem counter_never_wraps_of_jump :
    let ops : List Operation := [.load [0x60, 0xFF, 0xBF, 0xFF], .step true]
    let m := (initial ⟨0, 0⟩).performAll ops
    m.step true = .ok ⟨m.ran true, true⟩ ∧ (m.ran true).pc.toNat = 0x10FE ∧
      (m.ran true).step true = .error (.fetchOutOfMemory 0x10FE) := by
  intro ops m
  obtain ⟨hpeek, hpc, hreg⟩ : m.peek = 0xBFFF ∧ m.pc = 0x202 ∧ m.reg jumpReg = 0xFF := by
    decide +kernel
  have hstep : m.step true = .ok ⟨m.ran true, true⟩ := by
    rw [step_eq_completed_iff, hpeek, hpc]
    exact ⟨by decide, ⟨by decide, by decide, by decide⟩, by decide, rfl⟩
  have hword : Instruction.ofWord m.peek = .jumpPlus 0xFFF := by
    rw [hpeek]
    decide
  have htarget := ((counter_never_wraps ⟨0, 0⟩ ops).2.1 true _ hstep).2
  have hpc' : (m.ran true).pc.toNat = 0x10FE := by
    have hsum : (Instruction.jumpPlus 0xFFF).target m = 0xFFF + (m.reg jumpReg).toNat := rfl
    rw [htarget, hword, hsum, hreg]
    rfl
  refine ⟨hstep, hpc', ?_⟩
  rw [(Stepped.outside (by rw [hpc']; decide)).eq, hpc']
  rfl

end Machine

end Chip8
