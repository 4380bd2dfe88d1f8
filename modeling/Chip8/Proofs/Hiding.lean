/-
  Chip8/Proofs/Hiding.lean
  ========================
  **Machines that differ in hidden parts** — two machines agree off a list of
  parts; as long as no instruction reads one of these, they do the same.

  Only the six parts at the rim of the machine can be hidden: each of them has few
  readers (`Opcode.Reads`), some have none.  `AgreeOff.step` is the lemma for one
  step; what two runs have in common follows from it by induction over the run.
-/
import Chip8.Proofs.Footprint

namespace Chip8

/-! ### Readers -/

/-- A part at the rim of the machine. -/
def Part.IsRim : Part → Prop
  | .keypad | .screen | .rng | .delay | .sound | .dirty => True
  | _ => False

/-- The parts at the rim that an instruction reads. -/
def Instruction.Reads (p : Part) : Instruction → Prop
  | random .. => p = .rng
  | draw .. => p = .screen
  | skipHeld _ | skipFree _ | awaitKey _ => p = .keypad
  | getDelay _ => p = .delay
  | _ => False

/-- The words that read a part at the rim. -/
def Opcode.Reads (o : Opcode) : Part → Prop
  | .rng => o.family = 0xC
  | .screen => o.family = 0xD
  | .keypad => o.family = 0xE ∧ (o.nn = 0x9E ∨ o.nn = 0xA1) ∨ o.IsMisc 0x0A
  | .delay => o.IsMisc 0x07
  | _ => False

/-- Only the words that name an instruction are readers: the others of family E read as a
    skip on a held key, too. -/
theorem Instruction.Fits.reads {word : Int} {i : Instruction} (hfits : i.Fits (Opcode.ofWord word))
    (hknown : Opcode.known word = true) {p : Part} (h : i.Reads p) :
    (Opcode.ofWord word).Reads p := by
  cases i <;> try exact h.elim
  case random => subst h; exact hfits.1
  case draw => subst h; exact hfits.1
  case skipHeld =>
    obtain ⟨hfamily, -, hfree⟩ := hfits
    subst h
    exact Or.inl ⟨hfamily, (Opcode.known_iff_of_key hfamily).1 hknown⟩
  case skipFree =>
    subst h
    exact Or.inl ⟨hfits.1, Or.inr hfits.2.2⟩
  case getDelay => subst h; exact hfits.1
  case awaitKey => subst h; exact Or.inr hfits.1

/-! ### Agreement off hidden parts -/

namespace Machine

/-- The machines have the same in every part that is not hidden. -/
def AgreeOff (hidden : List Part) (m m' : Machine) : Prop := ∀ p : Part, p ∉ hidden → p.Agrees m m'

variable {hidden : List Part} {m m' : Machine}

theorem AgreeOff.refl (hidden : List Part) (m : Machine) : AgreeOff hidden m m :=
  fun p _ => Part.Agrees.refl m p

theorem AgreeOff.symm (h : AgreeOff hidden m m') : AgreeOff hidden m' m :=
  fun p hp => (h p hp).symm

theorem AgreeOff.trans {m'' : Machine} (h : AgreeOff hidden m m') (h' : AgreeOff hidden m' m'') :
    AgreeOff hidden m m'' :=
  fun p hp => (h p hp).trans (h' p hp)

/-- An instruction agrees with what was before off the parts that it writes. -/
theorem agreeOff_execute {i : Instruction} (h : ∀ p, i.Writes m.index.toNat p → p ∈ hidden) :
    AgreeOff hidden m (i.execute m) :=
  fun p hp => i.execute_agrees m fun hw => hp (h p hw)

theorem pc_skipIf (m : Machine) (b : Bool) : (m.skipIf b).pc = if b then m.pc + 2 else m.pc := by
  cases b <;> rfl

/-- What a combination makes of the registers depends on the registers only. -/
theorem regs_combine_congr (h : m'.regs = m.regs) (op : AluOp) (x y : Reg) :
    (m'.combine op x y).regs = (m.combine op x y).regs := by
  simp only [combine, reg, h]
  cases op.flag? m.regs[x.val] m.regs[y.val] <;> simp only [setFlag, setReg, h]

theorem reg_setReg_self (m : Machine) (x : Reg) (b : UInt8) : (m.setReg x b).reg x = b :=
  Vector.getElem_set_self x.isLt

/-! ### What is never hidden -/

section Core

variable (hrim : ∀ p ∈ hidden, p.IsRim)
include hrim

theorem AgreeOff.regs_eq (h : AgreeOff hidden m m') : m'.regs = m.regs := by
  refine Vector.ext fun i hi => ?_
  exact h (.reg ⟨i, hi⟩) (hrim _)

theorem AgreeOff.memory_eq (h : AgreeOff hidden m m') : m'.memory = m.memory := by
  refine Vector.ext fun i hi => ?_
  exact h (.byte ⟨i, hi⟩) (hrim _)

theorem AgreeOff.index_eq (h : AgreeOff hidden m m') : m'.index = m.index := h .index (hrim _)

theorem AgreeOff.pc_eq (h : AgreeOff hidden m m') : m'.pc = m.pc := h .pc (hrim _)

theorem AgreeOff.stack_eq (h : AgreeOff hidden m m') : m'.stack = m.stack := h .stack (hrim _)

/-- **Machines that agree off hidden parts do the same on an instruction that reads
    none of them.**  What the instruction does not write is covered by its frame; what
    it writes is computed from parts in which the machines agree. -/
theorem AgreeOff.execute (h : AgreeOff hidden m m') {i : Instruction}
    (hreads : ∀ p ∈ hidden, ¬ i.Reads p) : AgreeOff hidden (i.execute m) (i.execute m') := by
  have hregs := h.regs_eq hrim
  have hmemory := h.memory_eq hrim
  have hindex := h.index_eq hrim
  have hpc := h.pc_eq hrim
  have hstack := h.stack_eq hrim
  have hreg : ∀ x, m'.reg x = m.reg x := fun x => by simp only [reg, hregs]
  have hbyte : ∀ a, m'.byteAt a = m.byteAt a := fun a => by simp only [byteAt, hmemory]
  have hread : ∀ p, i.Reads p → p.Agrees m m' := fun p hp => h p fun hin => hreads p hin hp
  intro p hp
  by_cases hw : i.Writes m.index.toNat p
  case neg =>
    have hw' : ¬ i.Writes m'.index.toNat p := by rwa [hindex]
    have hkept : p.Agrees (i.execute m) m := Part.Agrees.symm (i.execute_agrees m hw)
    exact (hkept.trans (h p hp)).trans (i.execute_agrees m' hw')
  cases i with
  | idle => exact hw.elim
  | clear => rcases hw with rfl | rfl <;> rfl
  | ret => rcases hw with rfl | rfl <;> simp only [Part.Agrees, Instruction.execute, hstack]
  | call nnn =>
    rcases hw with rfl | rfl
    · rfl
    · simp only [Part.Agrees, Instruction.execute, hstack, hpc]
  | jump nnn => subst hw; rfl
  | jumpPlus nnn =>
    subst hw
    simp only [Part.Agrees, Instruction.execute, hreg]
  | skipEq x nn | skipNe x nn | skipEqReg x y | skipNeReg x y =>
    subst hw
    simp only [Part.Agrees, Instruction.execute, pc_skipIf, hreg, hpc]
  | skipHeld x | skipFree x =>
    subst hw
    have hkeypad : m'.keypad = m.keypad := hread .keypad rfl
    simp only [Part.Agrees, Instruction.execute, pc_skipIf, keyHeld, hkeypad, hreg, hpc]
  | load x nn | addConst x nn =>
    subst hw
    simp only [Part.Agrees, Instruction.execute, reg_setReg_self, hreg]
  | getDelay x =>
    subst hw
    have hdelay : m'.delay = m.delay := hread .delay rfl
    simp only [Part.Agrees, Instruction.execute, reg_setReg_self, hdelay]
  | alu op x y =>
    have hresult := regs_combine_congr hregs op x y
    rcases hw with rfl | ⟨-, rfl⟩ <;>
      simp only [Part.Agrees, Instruction.execute, reg, hresult]
  | setIndex nnn => subst hw; rfl
  | digitSprite x =>
    subst hw
    simp only [Part.Agrees, Instruction.execute, hreg]
  | random x nn =>
    have hrng : m'.rng = m.rng := hread .rng rfl
    rcases hw with rfl | rfl
    · have hbyte : (m'.setReg x (m'.rng.byte &&& nn)).reg x = (m.setReg x (m.rng.byte &&& nn)).reg x := by
        simp only [reg_setReg_self, hrng]
      exact hbyte
    · simp only [Part.Agrees, Instruction.execute, hrng]
  | draw x y n =>
    have hscreen : m'.screen = m.screen := hread .screen rfl
    have hsprite : ∀ x0 y0, m'.sprite x0 y0 n = m.sprite x0 y0 n := fun x0 y0 => by
      simp only [sprite, hbyte, hindex]
    rcases hw with rfl | rfl | rfl
    · simp only [Part.Agrees, Instruction.execute, draw, setFlag, setReg, hscreen, hsprite, hreg]
    · simp only [Part.Agrees, Instruction.execute, draw, setFlag, setReg]
    · simp only [Part.Agrees, Instruction.execute, draw, setFlag, reg_setReg_self, hscreen,
        hsprite, hreg]
  | awaitKey x =>
    have hkeypad : m'.keypad = m.keypad := hread .keypad rfl
    simp only [Instruction.execute, hkeypad]
    cases m.keypad.lowest? with
    | some k =>
      rcases hw with rfl | rfl
      · simp only [Part.Agrees, reg_setReg_self]
      · exact hpc
    | none =>
      rcases hw with rfl | rfl
      · exact hreg x
      · simp only [Part.Agrees, hpc]
  | setDelay x | setSound x =>
    subst hw
    simp only [Part.Agrees, Instruction.execute, hreg]
  | addIndex x =>
    rcases hw with rfl | rfl
    · simp only [Part.Agrees, Instruction.execute, setFlag, setReg, hindex, hreg]
    · simp only [Part.Agrees, Instruction.execute, setFlag, reg_setReg_self, hindex, hreg]
  | storeDigits x =>
    obtain ⟨a, rfl, -⟩ := hw
    simp only [Part.Agrees, Instruction.execute, hmemory, hindex, hreg]
  | storeRegs x =>
    rcases hw with rfl | ⟨a, rfl, -⟩
    · simp only [Part.Agrees, Instruction.execute, indexPast, hindex]
    · simp only [Part.Agrees, Instruction.execute, firstRegs, hmemory, hindex, hregs]
  | loadRegs x =>
    rcases hw with rfl | ⟨r, rfl, -⟩
    · simp only [Part.Agrees, Instruction.execute, indexPast, hindex]
    · simp only [Part.Agrees, Instruction.execute, reg, regsFromMemory, hbyte, hindex, hregs]

end Core

/-! ### Steps -/

theorem AgreeOff.tickIf (h : AgreeOff hidden m m') (decay : Bool) :
    AgreeOff hidden (m.tickIf decay) (m'.tickIf decay) :=
  fun p hp => Part.agrees_tickIf (h p hp) decay

theorem AgreeOff.advance (h : AgreeOff hidden m m') (hpc : m'.pc = m.pc) :
    AgreeOff hidden m.advance m'.advance := by
  intro p hp
  cases p with
  | pc => exact congrArg (· + 2) hpc
  | _ => exact h _ hp

/-- A word of the last family needs nothing of the call stack. -/
theorem runnable_of_isMisc {word : Int} {nn : Nat} (h : (Opcode.ofWord word).IsMisc nn)
    (hform : nn ∈ Opcode.miscForms) : m.Runnable word := by
  obtain ⟨hfamily, rfl⟩ := h
  refine ⟨?_, ?_, ?_⟩
  · simpa only [Opcode.known, hfamily, List.contains_iff_mem] using hform
  · intro hret
    rw [hret] at hfamily
    cases hfamily
  · intro hcall
    rw [hfamily] at hcall
    cases hcall

/-- The next step fetches a word that reads a part. -/
def FetchesReader (m : Machine) (p : Part) : Prop :=
  m.pc.toNat + 1 < Memory.size ∧ (Opcode.ofWord m.peek).Reads p

/-- Two outcomes of a step that say the same: one error, or machines that agree. -/
inductive SameOutcome (hidden : List Part) : Except Error Attempt → Except Error Attempt → Prop where
  | error (e : Error) : SameOutcome hidden (.error e) (.error e)
  | ok {m m' : Machine} (h : AgreeOff hidden m m') (completed : Bool) :
    SameOutcome hidden (.ok ⟨m, completed⟩) (.ok ⟨m', completed⟩)

theorem SameOutcome.trans {o o' o'' : Except Error Attempt} (h : SameOutcome hidden o o')
    (h' : SameOutcome hidden o' o'') : SameOutcome hidden o o'' := by
  cases h with
  | error e => exact h'
  | ok hagree completed =>
    cases h' with
    | ok hagree' => exact .ok (hagree.trans hagree') completed

section Core

variable (hrim : ∀ p ∈ hidden, p.IsRim)
include hrim

theorem AgreeOff.peek_eq (h : AgreeOff hidden m m') : m'.peek = m.peek := by
  simp only [peek, wordAt, byteAt, h.memory_eq hrim, h.pc_eq hrim]

theorem AgreeOff.check_eq (h : AgreeOff hidden m m') : m'.check m'.peek = m.check m.peek := by
  simp only [check, h.peek_eq hrim, h.pc_eq hrim, h.stack_eq hrim]

/-- **One step shows nothing of what its word does not read.**  A word that is refused, or that
    is not fetched at all, reads nothing. -/
theorem AgreeOff.step (h : AgreeOff hidden m m')
    (hreads : ∀ p ∈ hidden, ¬ m.FetchesReader p) (decay : Bool) :
    SameOutcome hidden (m.step decay) (m'.step decay) := by
  have hpeek := h.peek_eq hrim
  have hpc := h.pc_eq hrim
  have hcheck := h.check_eq hrim
  have hrun : m'.Runnable m'.peek ↔ m.Runnable m.peek := by
    rw [← check_eq_ok_iff, ← check_eq_ok_iff, hcheck]
  have hwaits : m.pc.toNat + 1 < Memory.size → m'.waitsOn m'.peek = m.waitsOn m.peek := by
    intro hin
    rw [hpeek]
    by_cases hkey : (Opcode.ofWord m.peek).IsMisc 0x0A
    · have hkeypad : m'.keypad = m.keypad :=
        h .keypad fun hhidden => hreads _ hhidden ⟨hin, Or.inr hkey⟩
      simp only [waitsOn, hkeypad]
    · have hnever : ∀ k : Machine, k.waitsOn m.peek = false := by
        intro k
        refine Bool.eq_false_iff.2 fun hw => hkey ?_
        simp only [waitsOn, Bool.and_eq_true, beq_iff_eq] at hw
        exact hw.1
      rw [hnever, hnever]
  have hstep := m.step_stepped decay
  generalize m.step decay = outcome at hstep
  cases hstep with
  | outside hout =>
    rw [(Stepped.outside (m := m') (by rwa [hpc])).eq, hpc]
    exact .error _
  | refused hin he =>
    rw [(Stepped.refused (m := m') (by rwa [hpc]) (hcheck.trans he)).eq]
    exact .error _
  | waiting hin hr hw =>
    rw [(Stepped.waiting (m := m') (by rwa [hpc]) (hrun.2 hr) ((hwaits hin).trans hw)).eq]
    exact .ok h false
  | running hin hr hw =>
    rw [(Stepped.running (m := m') (by rwa [hpc]) (hrun.2 hr) ((hwaits hin).trans hw)).eq]
    refine .ok (AgreeOff.tickIf ?_ decay) true
    rw [hpeek]
    refine (h.advance hpc).execute hrim fun p hp hread => hreads p hp ⟨hin, ?_⟩
    exact (Instruction.fits_ofWord _).reads hr.known hread

end Core

end Machine

end Chip8
