/-
  Chip8/Proofs/Suspension.lean
  ============================
  **Waiting for a key loses nothing** — whatever a host does to a machine that waits for a key,
  only the keypad, the timers and the mark of the screen change, until a step is taken with a key
  down; that step stores the least such key and goes on.

  Waiting is decided twice, by the step before it runs a word and by the word itself, which would
  move the program counter back.  Both agree (`execute_of_released`).  A run is taken apart one
  operation at a time; the invariant is that the machine still stands at a word that asks for a
  key, which holds of every machine that agrees with the first one off `hostParts`.
-/
import Chip8.Proofs.Bounds

namespace Chip8

namespace Keypad

variable {k : Keypad} {key : Fin 16}

theorem lowest?_eq_some_iff :
    k.lowest? = some key ↔ k.get key = true ∧ ∀ j < key, k.get j = false := by
  rw [lowest?, List.find?_eq_some_iff_getElem]
  constructor
  · rintro ⟨hheld, i, hi, rfl, hbefore⟩
    rw [List.length_finRange] at hi
    refine ⟨hheld, ?_⟩
    intro j hj
    rw [List.getElem_finRange] at hj
    have hfree : k[j.val] = false := by simpa using hbefore j.val hj
    exact hfree
  · rintro ⟨hheld, hbelow⟩
    refine ⟨hheld, key.val, by simp, by simp, ?_⟩
    intro j hj
    have hfree : k[j] = false := hbelow ⟨j, by omega⟩ hj
    simpa using hfree

theorem anyDown_eq_false_iff : k.anyDown = false ↔ ∀ key : Fin 16, k.get key = false := by
  simp only [anyDown, Vector.any_eq_false, id, Bool.not_eq_true]
  constructor
  · intro h key
    exact h key.val key.isLt
  · intro h i hi
    exact h ⟨i, hi⟩

end Keypad

namespace Machine

variable {m m' : Machine} {ops : List Operation} {op : Operation} {word : Int}

/-! ### Machines that ask for a key -/

/-- The machine stands at a word that asks for a key. -/
structure Asks (m : Machine) : Prop where
  inside : m.pc.toNat + 1 < Memory.size
  word : (Opcode.ofWord m.peek).IsMisc 0x0A

/-- No key is down. -/
def Released (m : Machine) : Prop := ∀ key : Fin 16, m.keypad.get key = false

instance (m : Machine) : Decidable m.Released := inferInstanceAs (Decidable (∀ _ : Fin 16, _))

theorem Asks.runnable (h : m.Asks) : m.Runnable m.peek := runnable_of_isMisc h.word (by decide)

theorem Asks.waitsOn_eq (h : m.Asks) : m.waitsOn m.peek = !m.keypad.anyDown := by
  obtain ⟨hfamily, hnn⟩ := h.word
  simp [waitsOn, hfamily, hnn]

theorem execute_of_asks (k : Machine) (h : (Opcode.ofWord word).IsMisc 0x0A) :
    k.execute word = (Instruction.awaitKey (Opcode.regX word)).execute k := by
  rw [execute, Instruction.ofWord_of_isMisc h]
  rfl

/-- With no key down a step does not complete. -/
theorem Asks.step_of_released (h : m.Asks) (hreleased : m.Released) (decay : Bool) :
    m.step decay = .ok ⟨m, false⟩ := by
  have hnone : m.keypad.anyDown = false := Keypad.anyDown_eq_false_iff.2 hreleased
  have hwaits : m.waitsOn m.peek = true := by rw [h.waitsOn_eq, hnone, Bool.not_false]
  exact (Stepped.waiting h.inside h.runnable hwaits).eq

/-- With no key down the word would move the program counter back to itself. -/
theorem Asks.execute_of_released (h : m.Asks) (hreleased : m.Released) :
    m.advance.execute m.peek = m := by
  have hnone : m.keypad.lowest? = none :=
    (Keypad.lowest?_eq_none_iff _).2 (Keypad.anyDown_eq_false_iff.2 hreleased)
  have hkeypad : m.advance.keypad.lowest? = none := hnone
  rw [execute_of_asks _ h.word]
  simp only [Instruction.execute, hkeypad]
  simp only [advance, UInt16.add_sub_cancel]

/-- What a machine that asks for a key becomes when it is given one. -/
structure Resumes (m : Machine) (decay : Bool) (key : Fin 16) (m' : Machine) : Prop where
  stored : (m'.reg (Opcode.regX m.peek)).toNat = key
  next : m'.pc.toNat = m.pc.toNat + 2
  others : AgreeOff [.pc, .reg (Opcode.regX m.peek)] (m.tickIf decay) m'

/-- With a key down a step completes, and stores the least one that is. -/
theorem Asks.step_of_lowest (h : m.Asks) {key : Fin 16} (hkey : m.keypad.lowest? = some key)
    (decay : Bool) : ∃ m', m.step decay = .ok ⟨m', true⟩ ∧ m.Resumes decay key m' := by
  have hany : m.keypad.anyDown = true := by
    rw [← Bool.not_eq_false, ← Keypad.lowest?_eq_none_iff, hkey]
    simp
  have hwaits : m.waitsOn m.peek = false := by rw [h.waitsOn_eq, hany, Bool.not_true]
  have hkeypad : m.advance.keypad.lowest? = some key := hkey
  have hran : m.ran decay =
      (m.advance.setReg (Opcode.regX m.peek) (UInt8.ofNat key)).tickIf decay := by
    rw [ran, execute_of_asks _ h.word]
    simp only [Instruction.execute, hkeypad]
  refine ⟨_, (Stepped.running h.inside h.runnable hwaits).eq, ?_, ?_, ?_⟩
  · have hsmall : key.val < UInt8.size := Nat.lt_trans key.isLt (by decide)
    have hreg : (m.ran decay).reg (Opcode.regX m.peek) = UInt8.ofNat key := by
      rw [hran, reg, regs_tickIf]
      exact reg_setReg_self _ _ _
    rw [hreg, UInt8.toNat_ofNat_of_lt' hsmall]
  · have hpc : (m.ran decay).pc = m.advance.pc := by
      rw [hran, pc_tickIf]
      rfl
    rw [hpc, pc_advance h.inside]
  · rw [hran]
    refine AgreeOff.tickIf ?_ decay
    intro p hp
    simp only [List.mem_cons, List.not_mem_nil, or_false, not_or] at hp
    exact (Part.agrees_pc hp.1 _).trans (Part.agrees_setReg hp.2 _)

/-! ### What a host does meanwhile -/

/-- The parts of a machine that a host writes, but for its memory. -/
def hostParts : List Part := [.keypad, .delay, .sound, .dirty]

theorem isRim_of_mem_hostParts : ∀ p ∈ hostParts, p.IsRim := by
  simp [hostParts, Part.IsRim]

theorem Asks.of_agreeOff (h : m.Asks) (hagree : AgreeOff hostParts m m') : m'.Asks where
  inside := by
    rw [hagree.pc_eq isRim_of_mem_hostParts]
    exact h.inside
  word := by
    rw [hagree.peek_eq isRim_of_mem_hostParts]
    exact h.word

theorem writes_hostParts {p : Part} (hload : ∀ image, op ≠ .load image) (h : op.Writes p) :
    p ∈ hostParts := by
  cases op with
  | load image => exact absurd rfl (hload image)
  | step decay => exact h.elim
  | tick => rcases h with rfl | rfl <;> simp [hostParts]
  | setKey key down =>
    subst h
    simp [hostParts]
  | takeFrame =>
    subst h
    simp [hostParts]

theorem Asks.agreeOff_perform (h : m.Asks) (hload : ∀ image, op ≠ .load image)
    (hstep : ∀ decay, op = .step decay → m.Released) :
    AgreeOff hostParts m (m.perform op) := by
  intro p hp
  apply perform_agrees
  · cases op with
    | step decay => simp only [completes, h.step_of_released (hstep decay rfl)]
    | load | tick | setKey | takeFrame => rfl
  · intro hwrites
    exact hp (writes_hostParts hload hwrites)

/-- As long as steps are taken with no key down, only the parts change that a host writes. -/
theorem Asks.agreeOff_performAll (h : m.Asks) (hload : ∀ image, .load image ∉ ops)
    (hsteps : ∀ (i : Nat) (decay : Bool), ops[i]? = some (.step decay) →
      (m.performAll (ops.take i)).Released) (i : Nat) :
    AgreeOff hostParts m (m.performAll (ops.take i)) := by
  induction ops generalizing m i with
  | nil =>
    rw [List.take_nil]
    exact AgreeOff.refl hostParts m
  | cons op ops ih =>
    cases i with
    | zero => exact AgreeOff.refl hostParts m
    | succ i =>
      have hfirst : AgreeOff hostParts m (m.perform op) := by
        apply h.agreeOff_perform
        · rintro image rfl
          exact hload image (List.mem_cons_self ..)
        · rintro decay rfl
          exact hsteps 0 decay rfl
      have hrest : AgreeOff hostParts (m.perform op) ((m.perform op).performAll (ops.take i)) := by
        apply ih (h.of_agreeOff hfirst)
        · intro image hmem
          exact hload image (List.mem_cons_of_mem _ hmem)
        · intro j decay hj
          exact hsteps (j + 1) decay hj
      exact hfirst.trans hrest

/-- **Waiting for a key loses nothing.**  A machine stands at a word that asks for a key, with no
    key down, and a host does what it likes to it but load a program and take a step with a key
    down.  Then only the keypad, the timers and the mark of the screen have changed; no step has
    completed, and each left the machine as its word would have.  The next step with a key down
    completes: it stores the least key that is down, goes on to the next word, and otherwise lets
    the timers count down if it is asked to. -/
theorem waits_losslessly (hasks : m.Asks) (hreleased : m.Released)
    (hload : ∀ image, .load image ∉ ops)
    (hsteps : ∀ (i : Nat) (decay : Bool), ops[i]? = some (.step decay) →
      (m.performAll (ops.take i)).Released) :
    let last := m.performAll ops
    AgreeOff [.keypad, .delay, .sound, .dirty] m last ∧
    m.advance.execute m.peek = m ∧
    (∀ (i : Nat) (decay : Bool), ops[i]? = some (.step decay) →
      let x := m.performAll (ops.take i)
      x.step decay = .ok ⟨x, false⟩ ∧ x.advance.execute x.peek = x) ∧
    (¬ last.Released → ∀ decay, ∃ (key : Fin 16) (next : Machine),
      last.keypad.get key = true ∧ (∀ j < key, last.keypad.get j = false) ∧
      last.step decay = .ok ⟨next, true⟩ ∧
      (next.reg (Opcode.regX m.peek)).toNat = key ∧ next.pc.toNat = m.pc.toNat + 2 ∧
      AgreeOff [.pc, .reg (Opcode.regX m.peek)] (last.tickIf decay) next) := by
  intro last
  have hagree : AgreeOff hostParts m last := by
    have hall := hasks.agreeOff_performAll hload hsteps ops.length
    rwa [List.take_length] at hall
  refine ⟨hagree, hasks.execute_of_released hreleased, ?_, ?_⟩
  · intro i decay hi x
    have hx : x.Asks := hasks.of_agreeOff (hasks.agreeOff_performAll hload hsteps i)
    have hnone : x.Released := hsteps i decay hi
    exact ⟨hx.step_of_released hnone decay, hx.execute_of_released hnone⟩
  · intro hdown decay
    have hlast : last.Asks := hasks.of_agreeOff hagree
    cases hkey : last.keypad.lowest? with
    | none =>
      have hnone := (Keypad.lowest?_eq_none_iff _).1 hkey
      exact absurd (Keypad.anyDown_eq_false_iff.1 hnone) hdown
    | some key =>
      obtain ⟨hheld, hleast⟩ := Keypad.lowest?_eq_some_iff.1 hkey
      obtain ⟨next, hstep, hresumes⟩ := hlast.step_of_lowest hkey decay
      obtain ⟨hstored, hnext, hothers⟩ := hresumes
      rw [hagree.peek_eq isRim_of_mem_hostParts] at hstored hothers
      rw [hagree.pc_eq isRim_of_mem_hostParts] at hnext
      exact ⟨key, next, hheld, hleast, hstep, hstored, hnext, hothers⟩

/-- A key is pressed and released between two steps, which it does not reach; of the two keys
    that are down at the third step, the lower one is stored. -/
theorem waits_losslessly_between_presses :
    let m : Machine :=
      { initial ⟨0, 0⟩ with memory := Cells.writeAll Memory.withFont 0x200 [0xF4, 0x0A], delay := 9 }
    let ops : List Operation := [.step true, .setKey 5 true, .setKey 5 false, .tick, .step false,
      .setKey 12 true, .setKey 7 true, .takeFrame]
    let last := m.performAll ops
    AgreeOff [.keypad, .delay, .sound, .dirty] m last ∧ last.delay = 8 ∧
      ∃ next, last.step true = .ok ⟨next, true⟩ ∧ (next.reg 4).toNat = 7 ∧
        next.pc.toNat = 0x202 ∧ next.delay = 7 := by
  intro m ops last
  obtain ⟨hpeek, hbounded, hlow, hdelay⟩ : m.peek = 0xF40A ∧
      (∀ i < 8, ∀ decay, ops[i]? = some (.step decay) → (m.performAll (ops.take i)).Released) ∧
      last.keypad.lowest? = some 7 ∧ last.delay = 8 := by
    decide +kernel
  have hasks : m.Asks := by
    refine ⟨by decide, ?_⟩
    rw [hpeek]
    decide
  have hload : ∀ image, .load image ∉ ops := by simp [ops]
  have hsteps : ∀ (i : Nat) (decay : Bool), ops[i]? = some (.step decay) →
      (m.performAll (ops.take i)).Released := by
    intro i decay hi
    exact hbounded i (List.getElem?_eq_some_iff.1 hi).1 decay hi
  obtain ⟨hheld, hleast⟩ := Keypad.lowest?_eq_some_iff.1 hlow
  obtain ⟨hagree, -, -, hresume⟩ :=
    waits_losslessly hasks (by decide : m.Released) hload hsteps
  have hdown : ¬ last.Released := by
    intro hnone
    rw [hnone 7] at hheld
    cases hheld
  obtain ⟨key, next, hkey, hbelow, hstep, hstored, hnext, hothers⟩ := hresume hdown true
  have hseven : key = 7 := by
    have hlowest := Keypad.lowest?_eq_some_iff.2 ⟨hkey, hbelow⟩
    exact Option.some.inj (hlowest.symm.trans hlow)
  have hregX : Opcode.regX m.peek = 4 := by
    rw [hpeek]
    decide
  rw [hregX] at hstored hothers
  rw [hseven] at hstored
  have hticked : next.delay = (last.tickIf true).delay := hothers .delay (by decide)
  refine ⟨hagree, hdelay, next, hstep, hstored, hnext, ?_⟩
  rw [hticked]
  exact (congrArg countDown hdelay).trans (by decide)

end Machine

end Chip8
