/-
  Chip8/Proofs/Dispatch.lean
  ==========================
  **The classifier and the dispatcher** — which words are unknown, and what they do when they are
  executed all the same.

  `Opcode.known` and the reading of words decide on their own which words name an instruction:
  the one by lists of forms, the other by the branches of each family.  They agree in the three
  families whose reading has a default: there the unknown words are the ones that do nothing
  (`ofWord_eq_idle_iff`).  Family E has no default.  Its reading asks for one form only, and every
  other word is the skip on a held key; stepping refuses these words before they are read.
-/
import Chip8.Proofs.Hiding

namespace Chip8

/-! ### Families with a default -/

theorem AluOp.ofNibble?_eq_none_iff (n : Nat) :
    ofNibble? n = none ↔ Opcode.arithmeticForms.contains n = false := by
  unfold ofNibble?
  split
  case h_10 => simp_all [Opcode.arithmeticForms]
  all_goals decide

namespace Instruction

variable {word : Int}

theorem ofSystemWord_eq_idle_iff (word : Int) :
    ofSystemWord word = idle ↔ (word == 0x00E0 || word == 0x00EE) = false := by
  unfold ofSystemWord
  split
  · next hclear => simp [hclear]
  split
  · next hret => simp [hret]
  · next hclear hret => simp [hclear, hret]

theorem ofMiscByte_eq_idle_iff (x : Reg) (nn : Nat) :
    ofMiscByte x nn = idle ↔ Opcode.miscForms.contains nn = false := by
  unfold ofMiscByte
  split
  case h_10 => simp_all [Opcode.miscForms]
  all_goals simp [Opcode.miscForms]

/-! ### All families -/

/-- The families that are one instruction each have no unknown words, and none that does
    nothing. -/
theorem known_and_ofWord_ne_idle (h : (Opcode.ofWord word).family ∉ [0x0, 0x8, 0xE, 0xF]) :
    Opcode.known word = true ∧ ofWord word ≠ idle := by
  have hlt := Opcode.family_lt word
  simp only [List.mem_cons, List.not_mem_nil, or_false, not_or] at h
  obtain ⟨hsystem, harith, hkey, hmisc⟩ := h
  constructor
  · unfold Opcode.known
    dsimp only
    split <;> first | contradiction | rfl
  · unfold ofWord ofOpcode
    split
    case h_16 => grind
    all_goals first | contradiction | simp

/-- **The words that do nothing are the unknown ones**, except in family E, of which every word
    does something. -/
theorem ofWord_eq_idle_iff (word : Int) :
    ofWord word = idle ↔ Opcode.known word = false ∧ (Opcode.ofWord word).family ≠ 0xE := by
  by_cases hsystem : (Opcode.ofWord word).family = 0x0
  · rw [ofWord_of_system hsystem, ofSystemWord_eq_idle_iff]
    simp only [Opcode.known, hsystem]
    simp
  by_cases harith : (Opcode.ofWord word).family = 0x8
  · rw [ofWord_of_arithmetic harith]
    simp only [Opcode.known, harith, ← AluOp.ofNibble?_eq_none_iff]
    cases AluOp.ofNibble? (Opcode.ofWord word).n <;> simp
  by_cases hkey : (Opcode.ofWord word).family = 0xE
  · rw [ofWord_of_key hkey]
    split <;> simp [hkey]
  by_cases hmisc : (Opcode.ofWord word).family = 0xF
  · rw [ofWord_of_isMisc ⟨hmisc, rfl⟩, ofMiscByte_eq_idle_iff]
    simp only [Opcode.known, hmisc]
    simp
  · have hplain : (Opcode.ofWord word).family ∉ [0x0, 0x8, 0xE, 0xF] := by
      simp [hsystem, harith, hkey, hmisc]
    obtain ⟨hknown, hread⟩ := known_and_ofWord_ne_idle hplain
    simp [hknown, hread]

/-- The unknown words of family E read as the skip on a held key. -/
theorem ofWord_of_unknown_key (hunknown : Opcode.known word = false)
    (hkey : (Opcode.ofWord word).family = 0xE) :
    ofWord word = .skipHeld (Opcode.regX word) := by
  have hfree : (Opcode.ofWord word).nn ≠ 0xA1 := by
    intro hnn
    rw [(Opcode.known_iff_of_key hkey).2 (Or.inr hnn)] at hunknown
    cases hunknown
  rw [ofWord_of_key hkey, if_neg hfree]

end Instruction

/-! ### Executing unknown words -/

namespace Machine

variable {m : Machine} {word : Int}

theorem execute_eq_of_unknown (m : Machine) (hunknown : Opcode.known word = false) :
    m.execute word =
      if (Opcode.ofWord word).family = 0xE ∧
          m.keypad[(m.reg (Opcode.regX word)).toNat % 16] = true then
        { m with pc := m.pc + 2 }
      else m := by
  by_cases hkey : (Opcode.ofWord word).family = 0xE
  · rw [execute, Instruction.ofWord_of_unknown_key hunknown hkey]
    by_cases hheld : m.keypad[(m.reg (Opcode.regX word)).toNat % 16] = true
    · rw [if_pos ⟨hkey, hheld⟩]
      exact if_pos hheld
    · rw [if_neg fun h => hheld h.2]
      exact if_neg hheld
  · rw [execute, (Instruction.ofWord_eq_idle_iff word).2 ⟨hunknown, hkey⟩, if_neg fun h => hkey h.1]
    rfl

theorem step_of_unknown (hpc : m.pc.toNat + 1 < Memory.size) (hpeek : (m.peek : Int) = word)
    (hunknown : Opcode.known word = false) (decay : Bool) :
    m.step decay = .error (.unknownOpcode word m.pc.toNat) := by
  rw [step_eq_error_iff hpc, hpeek]
  exact check_eq_error_iff.2 (Or.inl ⟨hunknown, rfl⟩)

/-- **What unknown words do.**  Outside family E the words that read as doing nothing are exactly
    the unknown ones, and no word of family E reads so.  An unknown word leaves the machine as it
    is, unless it belongs to family E: then it skips on a held key, as if it
    ended in 9E, and changes nothing else.  No unknown word gets so far in a step, which refuses
    it. -/
theorem execute_of_unknown (m : Machine) (word : Int) :
    (Instruction.ofWord word = .idle ↔
      Opcode.known word = false ∧ (Opcode.ofWord word).family ≠ 0xE) ∧
    (Opcode.known word = false →
      m.execute word =
        (if (Opcode.ofWord word).family = 0xE ∧
            m.keypad[(m.reg (Opcode.regX word)).toNat % 16] = true then
          { m with pc := m.pc + 2 }
        else m) ∧
      (m.pc.toNat + 1 < Memory.size → (m.peek : Int) = word →
        ∀ decay, m.step decay = .error (.unknownOpcode word m.pc.toNat))) := by
  refine ⟨Instruction.ofWord_eq_idle_iff word, ?_⟩
  intro hunknown
  refine ⟨execute_eq_of_unknown m hunknown, ?_⟩
  intro hpc hpeek decay
  exact step_of_unknown hpc hpeek hunknown decay

/-- With key 0 held, the word E000 skips the next instruction when it is executed, and is refused
    in a step; 8008 does nothing. -/
theorem execute_of_unknown_held :
    let m : Machine :=
      { initial ⟨0, 0⟩ with
        memory := Cells.writeAll Memory.withFont 0x200 [0xE0, 0x00]
        keypad := Keypad.released.setIfInBounds 0 true }
    m.execute 0xE000 = { m with pc := 0x202 } ∧ m.execute 0x8008 = m ∧
      m.step true = .error (.unknownOpcode 0xE000 0x200) := by
  intro m
  have hkey : Opcode.known 0xE000 = false := by decide
  have harith : Opcode.known 0x8008 = false := by decide
  obtain ⟨hskip, hrefused⟩ := (execute_of_unknown m 0xE000).2 hkey
  have hidle := ((execute_of_unknown m 0x8008).2 harith).1
  have hpeek : (m.peek : Int) = 0xE000 := by decide +kernel
  refine ⟨?_, ?_, hrefused (by decide) hpeek true⟩
  · rw [hskip, if_pos (by decide)]
    rfl
  · rw [hidle, if_neg (by decide)]

/-- Not every unknown word leaves the machine as it is. -/
theorem execute_skips_on_unknown :
    ¬ ∀ (m : Machine) (word : Int), -0x80000000 ≤ word → word < 0x80000000 →
      Opcode.known word = false → m.execute word = m := by
  intro hlaw
  let m : Machine := { initial ⟨0, 0⟩ with keypad := Keypad.released.set 0 true }
  have hsame := hlaw m 0xE000 (by decide) (by decide) (by decide)
  have hmoved : (m.execute 0xE000).pc = 0x202 := by decide
  rw [hsame] at hmoved
  revert hmoved
  decide

end Machine

end Chip8
