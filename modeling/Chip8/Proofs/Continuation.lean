/-
  Chip8/Proofs/Continuation.lean
  ==============================
  **Where a program continues** — the law of the program counter, word by word.

  `Machine.skipCondition?` and `Machine.Continues` say it in terms of the fields of a word and of
  the machine before the step: a jump and a call continue at a constant, a return at the entry on
  top of the call stack, a skip one or two words on, and everything else at the next word.  The
  law is proved by constructor (`Instruction.Fits.continues`), from the targets of `Bounds`.
-/
import Chip8.Proofs.Bounds
import Chip8.Proofs.Dispatch

namespace Chip8

/-! ### The law -/

namespace Machine

/-- The condition on registers and keypad under which a word skips the next one, if it is a word
    that skips. -/
def skipCondition? (m : Machine) (word : Int) : Option Bool :=
  let o := Opcode.ofWord word
  let vx := (m.reg (Opcode.regX word)).toNat
  let vy := (m.reg (Opcode.regY word)).toNat
  match o.family with
  | 0x3 => some (vx == o.nn)
  | 0x4 => some (vx != o.nn)
  | 0x5 => some (vx == vy)
  | 0x9 => some (vx != vy)
  | 0xE =>
    if o.nn = 0x9E then some m.keypad[vx % 16]
    else if o.nn = 0xA1 then some (!m.keypad[vx % 16])
    else none
  | _ => none

/-- The machine continues at an address after a word. -/
def Continues (m : Machine) (word : Int) (next : Nat) : Prop :=
  match m.skipCondition? word with
  | some skips => next = m.pc.toNat + if skips then 4 else 2
  | none =>
    match (Opcode.ofWord word).family with
    | 0x1 | 0x2 => next = (Opcode.ofWord word).nnn
    | 0xB => next = (Opcode.ofWord word).nnn + (m.reg jumpReg).toNat
    | _ =>
      if word = 0x00EE then
        ∃ top : Fin 16, m.stack.depth.toInt = top.val + 1 ∧ next = (m.stack.entries.get top).toNat
      else next = m.pc.toNat + 2

end Machine

/-- Two words skip under opposite conditions on the same operands. -/
def Opcode.Opposite (o o' : Opcode) : Prop :=
  o.family = 0x3 ∧ o'.family = 0x4 ∧ o'.x = o.x ∧ o'.nn = o.nn ∨
    o.family = 0x5 ∧ o'.family = 0x9 ∧ o'.x = o.x ∧ o'.y = o.y ∨
    o.family = 0xE ∧ o.nn = 0x9E ∧ o'.family = 0xE ∧ o'.nn = 0xA1 ∧ o'.x = o.x

/-- A return takes the entry below the depth. -/
theorem CallStack.pop_fst_eq {s : CallStack} {top : Fin 16} (h : s.depth.toInt = top.val + 1) :
    s.pop.1 = s.entries.get top := by
  have hdepth : (s.depth - 1).toInt = top.val := toInt_pred (by simpa using h) top.isLt
  simp only [pop, hdepth, entryAt_natCast s top.isLt]
  rfl

theorem Opcode.ne_return_of_family {word : Int} {family : Nat} (h : (ofWord word).family = family)
    (hfamily : family ≠ 0) : word ≠ 0x00EE := by
  rintro rfl
  exact hfamily h.symm

/-! ### Instructions that skip -/

namespace Instruction

variable {m : Machine} {word : Int} {i : Instruction}

/-- The instruction skips the next one or not. -/
def isSkip : Instruction → Bool
  | skipEq .. | skipNe .. | skipEqReg .. | skipNeReg .. | skipHeld _ | skipFree _ => true
  | _ => false

theorem target_of_isSkip (h : i.isSkip = true) (m : Machine) :
    i.target m = m.pc.toNat + if i.skips m then 4 else 2 := by
  have hsum : ∀ b : Bool, m.pc.toNat + 2 + (if b then 2 else 0) = m.pc.toNat + if b then 4 else 2 := by
    intro b
    cases b <;> rfl
  cases i with
  | skipEq | skipNe | skipEqReg | skipNeReg | skipHeld | skipFree => exact hsum _
  | _ => cases h

theorem writes_of_isSkip (h : i.isSkip = true) {index : Nat} {p : Part}
    (hp : i.Writes index p) : p = .pc := by
  cases i with
  | skipEq | skipNe | skipEqReg | skipNeReg | skipHeld | skipFree => exact hp
  | _ => cases h

theorem toNat_beq (a b : UInt8) : (a.toNat == b.toNat) = (a == b) := by
  rw [Bool.eq_iff_iff, beq_iff_eq, beq_iff_eq, UInt8.toNat_inj]

/-- The condition of a known word is the one under which its instruction skips. -/
theorem Fits.skipCondition?_eq (hfits : i.Fits (Opcode.ofWord word)) (hidle : i ≠ .idle)
    (hknown : Opcode.known word = true) (m : Machine) :
    m.skipCondition? word = if i.isSkip then some (i.skips m) else none := by
  have hreg : ∀ {x : Reg}, x.val = (Opcode.ofWord word).x → Opcode.regX word = x :=
    fun h => Fin.ext h.symm
  have hregY : ∀ {y : Reg}, y.val = (Opcode.ofWord word).y → Opcode.regY word = y :=
    fun h => Fin.ext h.symm
  cases i with
  | idle => exact absurd rfl hidle
  | clear | ret =>
    have hword : word = _ := hfits
    subst hword
    rfl
  | skipEq x nn =>
    obtain ⟨hfamily, hx, hnn⟩ := hfits
    simp only [Machine.skipCondition?, hfamily, hreg hx, ← hnn, toNat_beq]
    rfl
  | skipNe x nn =>
    obtain ⟨hfamily, hx, hnn⟩ := hfits
    simp only [Machine.skipCondition?, hfamily, hreg hx, ← hnn, bne, toNat_beq]
    rfl
  | skipEqReg x y =>
    obtain ⟨hfamily, hx, hy⟩ := hfits
    simp only [Machine.skipCondition?, hfamily, hreg hx, hregY hy, toNat_beq]
    rfl
  | skipNeReg x y =>
    obtain ⟨hfamily, hx, hy⟩ := hfits
    simp only [Machine.skipCondition?, hfamily, hreg hx, hregY hy, bne, toNat_beq]
    rfl
  | skipHeld x =>
    obtain ⟨hfamily, hx, hfree⟩ := hfits
    have hheld : (Opcode.ofWord word).nn = 0x9E :=
      ((Opcode.known_iff_of_key hfamily).1 hknown).resolve_right hfree
    simp only [Machine.skipCondition?, hfamily, hreg hx, hheld]
    rfl
  | skipFree x =>
    obtain ⟨hfamily, hx, hfree⟩ := hfits
    simp only [Machine.skipCondition?, hfamily, hreg hx, hfree]
    rfl
  | jump | call | load | addConst | alu | setIndex | jumpPlus | random | draw =>
    simp only [Machine.skipCondition?, hfits.1]
    rfl
  | getDelay | awaitKey | setDelay | setSound | addIndex | digitSprite | storeDigits
  | storeRegs | loadRegs =>
    simp only [Machine.skipCondition?, hfits.1.1]
    rfl

/-! ### Where instructions go on -/

/-- **A machine continues at the target of its instruction.** -/
theorem Fits.continues (hfits : i.Fits (Opcode.ofWord word)) (hidle : i ≠ .idle)
    (hknown : Opcode.known word = true)
    (hreturn : word = 0x00EE → 0 < m.stack.depth.toInt ∧ m.stack.depth.toInt ≤ 16) :
    m.Continues word (i.target m) := by
  rw [Machine.Continues, hfits.skipCondition?_eq hidle hknown]
  cases hskip : i.isSkip with
  | true => exact target_of_isSkip hskip m
  | false =>
    simp only [Bool.false_eq_true, if_false]
    cases i with
    | idle => exact absurd rfl hidle
    | clear =>
      have hword : word = 0x00E0 := hfits
      subst hword
      rfl
    | ret =>
      have hword : word = 0x00EE := hfits
      subst hword
      obtain ⟨hopen, hdepth⟩ := hreturn rfl
      have htop : m.stack.depth.toInt = ((m.stack.depth.toInt - 1).toNat : Int) + 1 := by omega
      let top : Fin 16 := ⟨(m.stack.depth.toInt - 1).toNat, by omega⟩
      exact ⟨top, htop, congrArg UInt16.toNat (CallStack.pop_fst_eq htop)⟩
    | skipEq | skipNe | skipEqReg | skipNeReg | skipHeld | skipFree => cases hskip
    | jump nnn | call nnn =>
      simp only [hfits.1]
      exact hfits.2
    | jumpPlus nnn =>
      simp only [hfits.1]
      exact congrArg (· + (m.reg jumpReg).toNat) hfits.2
    | load | addConst | alu | setIndex | random | draw =>
      simp only [hfits.1, if_neg (Opcode.ne_return_of_family hfits.1 (by decide))]
      rfl
    | getDelay | awaitKey | setDelay | setSound | addIndex | digitSprite | storeDigits
    | storeRegs | loadRegs =>
      simp only [hfits.1.1, if_neg (Opcode.ne_return_of_family hfits.1.1 (by decide))]
      rfl

end Instruction

/-! ### Steps -/

namespace Machine

variable {m m' k : Machine} {decay : Bool} {word word' : Int}

theorem ofWord_ne_idle_of_known (h : Opcode.known word = true) :
    Instruction.ofWord word ≠ .idle := by
  intro hidle
  have hunknown := ((Instruction.ofWord_eq_idle_iff word).1 hidle).1
  rw [h] at hunknown
  cases hunknown

theorem continues_of_step (hnonneg : 0 ≤ m.stack.depth.toInt) (hfits : m.stack.depth.toInt ≤ 16)
    (hstep : m.step decay = .ok ⟨m', true⟩) : m.Continues m.peek m'.pc.toNat := by
  obtain ⟨-, hrun, -, -⟩ := step_eq_completed_iff.1 hstep
  rw [pc_ran hstep]
  apply (Instruction.fits_ofWord m.peek).continues (ofWord_ne_idle_of_known hrun.known) hrun.known
  intro hreturn
  have hopen : m.stack.depth.toInt ≠ 0 := fun h => hrun.hasCall hreturn (Int32.toInt_inj.1 h)
  exact ⟨by omega, hfits⟩

theorem agreeOff_of_skips (hstep : m.step decay = .ok ⟨m', true⟩)
    (hskips : (m.skipCondition? m.peek).isSome) : AgreeOff [.pc] (m.tickIf decay) m' := by
  obtain ⟨-, hrun, -, rfl⟩ := step_eq_completed_iff.1 hstep
  have hskip : (Instruction.ofWord m.peek).isSkip = true := by
    rw [(Instruction.fits_ofWord m.peek).skipCondition?_eq (ofWord_ne_idle_of_known hrun.known)
      hrun.known] at hskips
    cases hskip : (Instruction.ofWord m.peek).isSkip with
    | true => rfl
    | false =>
      rw [hskip] at hskips
      cases hskips
  have hadvance : AgreeOff [.pc] m m.advance := by
    intro p hp
    apply Part.agrees_pc
    simpa using hp
  have hexecute : AgreeOff [.pc] m.advance (m.advance.execute m.peek) := by
    apply agreeOff_execute
    intro p hp
    simpa using Instruction.writes_of_isSkip hskip hp
  exact (hadvance.trans hexecute).tickIf decay

/-! ### Opposite words -/

theorem family_of_skips (h : (m.skipCondition? word).isSome) :
    (Opcode.ofWord word).family ∈ [0x3, 0x4, 0x5, 0x9, 0xE] ∧ Opcode.known word = true := by
  unfold skipCondition? at h
  dsimp only at h
  split at h
  case h_5 hkey =>
    refine ⟨by simp [hkey], (Opcode.known_iff_of_key hkey).2 ?_⟩
    split at h
    · next hheld => exact Or.inl hheld
    split at h
    · next hfree => exact Or.inr hfree
    · cases h
  case h_6 => cases h
  all_goals next hfamily => exact ⟨by simp [hfamily], by simp only [Opcode.known, hfamily]⟩

/-- A word that skips completes wherever it lies in memory. -/
theorem step_of_skips (hpc : m.pc.toNat + 1 < Memory.size)
    (h : (m.skipCondition? m.peek).isSome) (decay : Bool) :
    m.step decay = .ok ⟨m.ran decay, true⟩ := by
  obtain ⟨hfamily, hknown⟩ := family_of_skips h
  simp only [List.mem_cons, List.not_mem_nil, or_false] at hfamily
  refine step_eq_completed_iff.2 ⟨hpc, ⟨hknown, ?_, ?_⟩, ?_, rfl⟩
  · intro hreturn
    exact absurd hreturn (Opcode.ne_return_of_family rfl (by omega))
  · intro hcall
    omega
  · have hmisc : (Opcode.ofWord m.peek).family ≠ 0xF := by omega
    simp [waitsOn, hmisc]

/-- Of two opposite conditions in one state, one holds. -/
theorem skipCondition?_of_opposite (hreg : ∀ x, k.reg x = m.reg x) (hkeypad : k.keypad = m.keypad)
    (h : (Opcode.ofWord word).Opposite (Opcode.ofWord word')) :
    ∃ b, m.skipCondition? word = some b ∧ k.skipCondition? word' = some (!b) := by
  have hregX : (Opcode.ofWord word').x = (Opcode.ofWord word).x →
      Opcode.regX word' = Opcode.regX word := fun h => Fin.ext h
  have hregY : (Opcode.ofWord word').y = (Opcode.ofWord word).y →
      Opcode.regY word' = Opcode.regY word := fun h => Fin.ext h
  rcases h with ⟨hfamily, hfamily', hx, hnn⟩ | ⟨hfamily, hfamily', hx, hy⟩ |
    ⟨hfamily, hheld, hfamily', hfree, hx⟩
  · simp only [skipCondition?, hfamily, hfamily', hreg, hregX hx, hnn]
    exact ⟨_, rfl, rfl⟩
  · simp only [skipCondition?, hfamily, hfamily', hreg, hregX hx, hregY hy]
    exact ⟨_, rfl, rfl⟩
  · simp only [skipCondition?, hfamily, hfamily', hreg, hregX hx, hkeypad, hheld, hfree]
    exact ⟨_, rfl, rfl⟩

/-- **The law of the program counter.**  A step that completes with a depth in range continues
    where its word says.  A word that skips changes nothing but the program counter, and lets the
    timers count down if it is asked to.  If the same machine, with whatever memory, has a word
    with the opposite condition in its place, a step completes there, too, and exactly one of the
    two skips. -/
theorem step_continues (hnonneg : 0 ≤ m.stack.depth.toInt) (hfits : m.stack.depth.toInt ≤ 16)
    (hstep : m.step decay = .ok ⟨m', true⟩) :
    m.Continues m.peek m'.pc.toNat ∧
    ((m.skipCondition? m.peek).isSome → AgreeOff [.pc] (m.tickIf decay) m') ∧
    ∀ k : Machine, (∀ p : Part, (∀ a, p ≠ .byte a) → p.Agrees m k) →
      (Opcode.ofWord m.peek).Opposite (Opcode.ofWord k.peek) →
      ∀ decay', ∃ k', k.step decay' = .ok ⟨k', true⟩ ∧
        (m'.pc.toNat = m.pc.toNat + 4 ∧ k'.pc.toNat = m.pc.toNat + 2 ∨
          m'.pc.toNat = m.pc.toNat + 2 ∧ k'.pc.toNat = m.pc.toNat + 4) := by
  have hnext := continues_of_step hnonneg hfits hstep
  refine ⟨hnext, agreeOff_of_skips hstep, ?_⟩
  intro k hsame hopposite decay'
  have hpc : k.pc = m.pc := hsame .pc (by simp)
  have hstack : k.stack = m.stack := hsame .stack (by simp)
  have hkeypad : k.keypad = m.keypad := hsame .keypad (by simp)
  have hreg : ∀ x, k.reg x = m.reg x := fun x => hsame (.reg x) (by simp)
  obtain ⟨b, hb, hb'⟩ := skipCondition?_of_opposite hreg hkeypad hopposite
  have hin : k.pc.toNat + 1 < Memory.size := by
    rw [hpc]
    exact (step_eq_completed_iff.1 hstep).1
  have hstep' : k.step decay' = .ok ⟨k.ran decay', true⟩ :=
    step_of_skips hin (by rw [hb']; rfl) decay'
  have hnext' : k.Continues k.peek (k.ran decay').pc.toNat := by
    apply continues_of_step _ _ hstep'
    · rwa [hstack]
    · rwa [hstack]
  refine ⟨_, hstep', ?_⟩
  simp only [Continues, hb] at hnext
  simp only [Continues, hb', hpc] at hnext'
  cases b with
  | true => exact Or.inl ⟨hnext, hnext'⟩
  | false => exact Or.inr ⟨hnext, hnext'⟩

/-- Key 5 is held, and a register holds 0x15: the skip on a held key skips and the skip on a free
    one in its place does not. -/
theorem step_continues_of_key :
    let m : Machine :=
      { initial ⟨0, 0⟩ with
        memory := Cells.writeAll Memory.withFont 0x200 [0xE1, 0x9E]
        regs := (Vector.replicate 16 0).setIfInBounds 1 0x15
        keypad := Keypad.released.setIfInBounds 5 true
        delay := 3 }
    let k : Machine := { m with memory := Cells.writeAll Memory.withFont 0x200 [0xE1, 0xA1] }
    m.step true = .ok ⟨m.ran true, true⟩ ∧ (m.ran true).pc.toNat = 0x204 ∧
      (m.ran true).delay = 2 ∧ ∃ k', k.step false = .ok ⟨k', true⟩ ∧ k'.pc.toNat = 0x202 := by
  intro m k
  have hpeek : m.peek = 0xE19E := by decide +kernel
  have hpeek' : k.peek = 0xE1A1 := by decide +kernel
  have hskips : m.skipCondition? m.peek = some true := by
    rw [hpeek]
    decide
  have hpc : m.pc.toNat = 0x200 := by decide
  have hstep : m.step true = .ok ⟨m.ran true, true⟩ :=
    step_of_skips (by rw [hpc]; decide) (by rw [hskips]; rfl) true
  have hopposite : (Opcode.ofWord m.peek).Opposite (Opcode.ofWord k.peek) := by
    rw [hpeek, hpeek']
    exact Or.inr (Or.inr (by decide))
  have hsame : ∀ p : Part, (∀ a, p ≠ .byte a) → p.Agrees m k :=
    fun p hp => Part.agrees_memory hp _
  have hdepth : m.stack.depth.toInt = 0 := by decide
  obtain ⟨hnext, hkept, hone⟩ := step_continues (by omega) (by omega) hstep
  simp only [Continues, hskips, hpc] at hnext
  have hdelay : (m.ran true).delay = (m.tickIf true).delay :=
    hkept (by rw [hskips]; rfl) .delay (by decide)
  obtain ⟨k', hstep', ⟨-, hnext'⟩ | ⟨hstays, -⟩⟩ := hone k hsame hopposite false
  · rw [hpc] at hnext'
    exact ⟨hstep, hnext, hdelay.trans (by decide), k', hstep', hnext'⟩
  · rw [hnext, hpc] at hstays
    cases hstays

end Machine

end Chip8
