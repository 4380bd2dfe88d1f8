/-
  Chip8/Proofs/Encoding.lean
  ==========================
  **The words of each instruction** — the table of words, read in the other
  direction: which words an instruction can have been read from.

  `Instruction.Fits` has one row per constructor, and `fits_ofWord` says that
  reading a word only ever yields an instruction whose row the word is in.  So a
  fact about constructors becomes a fact about words, without another look at how
  words are read.  Where a family has one instruction, or one table of them, `ofWord_of_…`
  reads it in the forward direction.
-/
import Chip8.Instruction

namespace Chip8

/-! ### Fields of a word -/

namespace Opcode

theorem x_lt (word : Int) : (ofWord word).x < 16 := by
  simp only [ofWord]
  omega

theorem y_lt (word : Int) : (ofWord word).y < 16 := by
  simp only [ofWord]
  omega

theorem nn_lt (word : Int) : (ofWord word).nn < 256 := by
  simp only [ofWord]
  omega

theorem ofWord_natCast {w : Nat} (h : w < 65536) :
    ofWord w = ⟨w, w / 4096, w / 256 % 16, w / 16 % 16, w % 16, w % 256, w % 4096⟩ := by
  have hlow : low16 w = w := by
    unfold low16
    omega
  simp only [ofWord, hlow]

/-- The register that the second nibble of a word names. -/
def regX (word : Int) : Reg := ⟨(ofWord word).x, x_lt word⟩

/-- The register that the third nibble of a word names. -/
def regY (word : Int) : Reg := ⟨(ofWord word).y, y_lt word⟩

theorem ofNat_x (word : Int) : Fin.ofNat 16 (ofWord word).x = regX word :=
  Fin.ext (Nat.mod_eq_of_lt (x_lt word))

theorem ofNat_y (word : Int) : Fin.ofNat 16 (ofWord word).y = regY word :=
  Fin.ext (Nat.mod_eq_of_lt (y_lt word))

/-- The known words of family E have one of two last bytes. -/
theorem known_iff_of_key {word : Int} (h : (ofWord word).family = 0xE) :
    known word = true ↔ (ofWord word).nn = 0x9E ∨ (ofWord word).nn = 0xA1 := by
  simp only [known, h, keyForms, List.contains_iff_mem, List.mem_cons, List.not_mem_nil, or_false]

/-- The word belongs to the last family and ends in a byte. -/
def IsMisc (o : Opcode) (nn : Nat) : Prop := o.family = 0xF ∧ o.nn = nn

instance (o : Opcode) (nn : Nat) : Decidable (o.IsMisc nn) :=
  inferInstanceAs (Decidable (_ ∧ _))

end Opcode

/-! ### The table -/

namespace AluOp

/-- The last nibble that selects an arithmetic operation. -/
def nibble : AluOp → Nat
  | copy => 0x0
  | or => 0x1
  | and => 0x2
  | xor => 0x3
  | add => 0x4
  | sub => 0x5
  | halve => 0x6
  | subFrom => 0x7
  | double => 0xE

theorem ofNibble?_eq_some_iff (n : Nat) (op : AluOp) : ofNibble? n = some op ↔ op.nibble = n := by
  constructor
  · intro h
    unfold ofNibble? at h
    split at h <;> cases h <;> rfl
  · rintro rfl
    cases op <;> rfl

end AluOp

namespace Instruction

/-- The words that an instruction is read from, with the operands that they
    carry.  Nothing is said here about `idle`, which does nothing. -/
def Fits (o : Opcode) : Instruction → Prop
  | idle => True
  | clear => o.raw = 0x00E0
  | ret => o.raw = 0x00EE
  | jump nnn => o.family = 0x1 ∧ nnn.val = o.nnn
  | call nnn => o.family = 0x2 ∧ nnn.val = o.nnn
  | skipEq x nn => o.family = 0x3 ∧ x.val = o.x ∧ nn.toNat = o.nn
  | skipNe x nn => o.family = 0x4 ∧ x.val = o.x ∧ nn.toNat = o.nn
  | skipEqReg x y => o.family = 0x5 ∧ x.val = o.x ∧ y.val = o.y
  | load x nn => o.family = 0x6 ∧ x.val = o.x ∧ nn.toNat = o.nn
  | addConst x nn => o.family = 0x7 ∧ x.val = o.x ∧ nn.toNat = o.nn
  | alu op x y => o.family = 0x8 ∧ x.val = o.x ∧ y.val = o.y ∧ op.nibble = o.n
  | skipNeReg x y => o.family = 0x9 ∧ x.val = o.x ∧ y.val = o.y
  | setIndex nnn => o.family = 0xA ∧ nnn.val = o.nnn
  | jumpPlus nnn => o.family = 0xB ∧ nnn.val = o.nnn
  | random x nn => o.family = 0xC ∧ x.val = o.x ∧ nn.toNat = o.nn
  | draw x y n => o.family = 0xD ∧ x.val = o.x ∧ y.val = o.y ∧ n = o.n
  | skipHeld x => o.family = 0xE ∧ x.val = o.x ∧ o.nn ≠ 0xA1
  | skipFree x => o.family = 0xE ∧ x.val = o.x ∧ o.nn = 0xA1
  | getDelay x => o.IsMisc 0x07 ∧ x.val = o.x
  | awaitKey x => o.IsMisc 0x0A ∧ x.val = o.x
  | setDelay x => o.IsMisc 0x15 ∧ x.val = o.x
  | setSound x => o.IsMisc 0x18 ∧ x.val = o.x
  | addIndex x => o.IsMisc 0x1E ∧ x.val = o.x
  | digitSprite x => o.IsMisc 0x29 ∧ x.val = o.x
  | storeDigits x => o.IsMisc 0x33 ∧ x.val = o.x
  | storeRegs x => o.IsMisc 0x55 ∧ x.val = o.x
  | loadRegs x => o.IsMisc 0x65 ∧ x.val = o.x

theorem fits_ofSystemWord (o : Opcode) : (ofSystemWord o.raw).Fits o := by
  unfold ofSystemWord
  split
  · assumption
  split
  · assumption
  · trivial

theorem fits_ofMiscByte {o : Opcode} (hfamily : o.family = 0xF) {x : Reg} (hx : x.val = o.x) :
    (ofMiscByte x o.nn).Fits o := by
  unfold ofMiscByte
  split
  all_goals first | exact True.intro | exact ⟨⟨hfamily, by assumption⟩, hx⟩

/-- **Reading a word yields an instruction whose words it is one of.** -/
theorem fits_ofWord (word : Int) : (ofWord word).Fits (Opcode.ofWord word) := by
  have hx : (Fin.ofNat 16 (Opcode.ofWord word).x).val = (Opcode.ofWord word).x :=
    Nat.mod_eq_of_lt (Opcode.x_lt word)
  have hy : (Fin.ofNat 16 (Opcode.ofWord word).y).val = (Opcode.ofWord word).y :=
    Nat.mod_eq_of_lt (Opcode.y_lt word)
  have hnn : (UInt8.ofNat (Opcode.ofWord word).nn).toNat = (Opcode.ofWord word).nn :=
    Nat.mod_eq_of_lt (Opcode.nn_lt word)
  have hnnn : (Fin.ofNat 4096 (Opcode.ofWord word).nnn).val = (Opcode.ofWord word).nnn :=
    Nat.mod_eq_of_lt (Opcode.nnn_lt word)
  have hfamily := Opcode.family_lt word
  unfold ofWord
  generalize Opcode.ofWord word = o at *
  unfold ofOpcode
  split
  case h_1 => exact fits_ofSystemWord o
  case h_2 h => exact ⟨h, hnnn⟩
  case h_3 h => exact ⟨h, hnnn⟩
  case h_4 h => exact ⟨h, hx, hnn⟩
  case h_5 h => exact ⟨h, hx, hnn⟩
  case h_6 h => exact ⟨h, hx, hy⟩
  case h_7 h => exact ⟨h, hx, hnn⟩
  case h_8 h => exact ⟨h, hx, hnn⟩
  case h_9 h =>
    split
    · next op hop => exact ⟨h, hx, hy, (AluOp.ofNibble?_eq_some_iff _ _).1 hop⟩
    · trivial
  case h_10 h => exact ⟨h, hx, hy⟩
  case h_11 h => exact ⟨h, hnnn⟩
  case h_12 h => exact ⟨h, hnnn⟩
  case h_13 h => exact ⟨h, hx, hnn⟩
  case h_14 h => exact ⟨h, hx, hy, rfl⟩
  case h_15 h =>
    split
    · next hfree => exact ⟨h, hx, hfree⟩
    · next hheld => exact ⟨h, hx, hheld⟩
  case h_16 =>
    -- no family is left but the last
    have hlast : o.family = 0xF := by grind
    exact fits_ofMiscByte hlast hx

/-! ### Reading the words of a family -/

variable {word : Int}

theorem ofWord_of_system (h : (Opcode.ofWord word).family = 0x0) :
    ofWord word = ofSystemWord word := by
  rw [ofWord, ofOpcode, h]
  rfl

theorem ofWord_of_load (h : (Opcode.ofWord word).family = 0x6) :
    ofWord word = .load (Opcode.regX word) (UInt8.ofNat (Opcode.ofWord word).nn) := by
  rw [← Opcode.ofNat_x, ofWord, ofOpcode, h]
  rfl

theorem ofWord_of_arithmetic (h : (Opcode.ofWord word).family = 0x8) :
    ofWord word = match AluOp.ofNibble? (Opcode.ofWord word).n with
      | some op => .alu op (Opcode.regX word) (Opcode.regY word)
      | none => .idle := by
  rw [← Opcode.ofNat_x, ← Opcode.ofNat_y, ofWord, ofOpcode, h]
  rfl

theorem ofWord_of_setIndex (h : (Opcode.ofWord word).family = 0xA) :
    ofWord word = .setIndex (Fin.ofNat 4096 (Opcode.ofWord word).nnn) := by
  rw [ofWord, ofOpcode, h]
  rfl

theorem ofWord_of_random (h : (Opcode.ofWord word).family = 0xC) :
    ofWord word = .random (Opcode.regX word) (UInt8.ofNat (Opcode.ofWord word).nn) := by
  rw [← Opcode.ofNat_x, ofWord, ofOpcode, h]
  rfl

theorem ofWord_of_draw (h : (Opcode.ofWord word).family = 0xD) :
    ofWord word = .draw (Opcode.regX word) (Opcode.regY word) (Opcode.ofWord word).n := by
  rw [← Opcode.ofNat_x, ← Opcode.ofNat_y, ofWord, ofOpcode, h]
  rfl

theorem ofWord_of_key (h : (Opcode.ofWord word).family = 0xE) :
    ofWord word = if (Opcode.ofWord word).nn = 0xA1 then .skipFree (Opcode.regX word)
      else .skipHeld (Opcode.regX word) := by
  rw [← Opcode.ofNat_x, ofWord, ofOpcode, h]
  rfl

theorem ofWord_of_isMisc {nn : Nat} (h : (Opcode.ofWord word).IsMisc nn) :
    ofWord word = ofMiscByte (Opcode.regX word) nn := by
  obtain ⟨hfamily, rfl⟩ := h
  rw [← Opcode.ofNat_x, ofWord, ofOpcode, hfamily]
  rfl

end Instruction

end Chip8
