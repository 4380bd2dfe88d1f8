/-
  Chip8/Proofs/Drawing.lean
  =========================
  **The pixel law** — a sprite flips exactly the cells in which it has a set bit, and says
  whether one of them was lit.

  The law holds of any bytes in the cells: the sprite has nothing but zeros and ones, so only the
  last bit of a cell is flipped, and it alone is asked for.  `Machine.spriteBit` gives the bit of a
  sprite in a column and row by arithmetic on bytes: zero outside the sprite, and the byte of a row
  past the end of memory is the last byte.  No column or row is counted modulo the screen, so what
  does not fit is cut off and appears nowhere else.
-/
import Chip8.Proofs.Hiding
import Mathlib.Algebra.Group.Nat.Defs

namespace Chip8

/-! ### Columns and rows -/

namespace Screen

theorem getElem_ofCells_at (f : Nat → Nat → UInt8) (c : Fin 64) (r : Fin 32) :
    (ofCells f)[c.val + 64 * r.val] = f c r := by
  have hcolumn : (c.val + 64 * r.val) % width = c := by
    simp only [width]
    omega
  have hrow : (c.val + 64 * r.val) / width = r := by
    simp only [width]
    omega
  rw [getElem_ofCells, hcolumn, hrow]

theorem toNat_getElem_overlay (s t : Screen) (i : Nat) (h : i < 2048) :
    (s.overlay t)[i].toNat = s[i].toNat ^^^ t[i].toNat := by
  rw [getElem_overlay, UInt8.toNat_xor]

/-- A byte shares its last bit with a one, and nothing with a zero. -/
theorem and_eq_one_iff {a b : UInt8} (hb : b = 0 ∨ b = 1) :
    a &&& b = 1 ↔ b = 1 ∧ a.toNat % 2 = 1 := by
  rcases hb with rfl | rfl
  · simp
  · simp [← UInt8.toNat_inj]

/-- Every cell has a column and a row. -/
theorem exists_column_row {i : Nat} (h : i < 2048) :
    ∃ (c : Fin 64) (r : Fin 32), i = c.val + 64 * r.val :=
  ⟨⟨i % 64, by omega⟩, ⟨i / 64, by omega⟩, by simp only; omega⟩

/-- Every cell of a screen is 0 or 1. -/
def IsBinary (s : Screen) : Prop := ∀ (i : Nat) (hi : i < 2048), s[i] = 0 ∨ s[i] = 1

variable {s t : Screen}

theorem isBinary_blank : IsBinary blank := by
  intro i hi
  exact Or.inl (Vector.getElem_replicate _)

theorem IsBinary.overlay (hs : s.IsBinary) (ht : t.IsBinary) : (s.overlay t).IsBinary := by
  intro i hi
  rw [getElem_overlay]
  rcases hs i hi with h | h <;> rcases ht i hi with h' | h' <;> simp [h, h']

theorem hits_iff_exists_cell (s : Screen) (ht : t.IsBinary) :
    s.hits t = true ↔ ∃ (c : Fin 64) (r : Fin 32),
      t[c.val + 64 * r.val] = 1 ∧ s[c.val + 64 * r.val].toNat % 2 = 1 := by
  rw [hits_iff]
  constructor
  · rintro ⟨i, hi, hboth⟩
    obtain ⟨c, r, rfl⟩ := exists_column_row hi
    exact ⟨c, r, (and_eq_one_iff (ht _ hi)).1 hboth⟩
  · rintro ⟨c, r, hboth⟩
    exact ⟨c.val + 64 * r.val, by omega, (and_eq_one_iff (ht _ (by omega))).2 hboth⟩

/-- A picture that is laid over a screen twice meets a lit cell just when it has one: where the
    screen is dark at first, the picture meets itself. -/
theorem hits_or_hits_overlay (s : Screen) (ht : t.IsBinary) :
    s.hits t = true ∨ (s.overlay t).hits t = true ↔
      ∃ (c : Fin 64) (r : Fin 32), t[c.val + 64 * r.val] = 1 := by
  rw [hits_iff_exists_cell s ht, hits_iff_exists_cell (s.overlay t) ht]
  constructor
  · rintro (⟨c, r, hlit, -⟩ | ⟨c, r, hlit, -⟩) <;> exact ⟨c, r, hlit⟩
  · rintro ⟨c, r, hlit⟩
    rcases Nat.mod_two_eq_zero_or_one s[c.val + 64 * r.val].toNat with hdark | hscreen
    · refine Or.inr ⟨c, r, hlit, ?_⟩
      rw [toNat_getElem_overlay, hlit, UInt8.toNat_one, Nat.xor_mod_two_eq_one]
      omega
    · exact Or.inl ⟨c, r, hlit, hscreen⟩

end Screen

namespace Machine

/-! ### Bits of a sprite -/

/-- The bit that a sprite of `n` rows at `(x0, y0)` has in column `c` of row `r`: eight bits a row,
    the most significant one first, from the byte that the index register points at on.  Rows
    past the end of memory have its last byte. -/
def spriteBit (m : Machine) (x0 y0 n c r : Nat) : Nat :=
  if x0 ≤ c ∧ c < x0 + 8 ∧ y0 ≤ r ∧ r < y0 + n then
    m.memory[min (m.index.toNat + (r - y0)) 0xFFF].toNat / 2 ^ (7 - (c - x0)) % 2
  else 0

theorem spriteBit_eq_zero_or_one (m : Machine) (x0 y0 n c r : Nat) :
    m.spriteBit x0 y0 n c r = 0 ∨ m.spriteBit x0 y0 n c r = 1 := by
  rw [spriteBit]
  split
  · exact Nat.mod_two_eq_zero_or_one _
  · exact Or.inl rfl

/-- A bit is singled out by shifting it to the end of its byte. -/
theorem toNat_shiftRight_and_one (b : UInt8) {k : Nat} (hk : k < 8) :
    (b >>> UInt8.ofNat k &&& 1).toNat = b.toNat / 2 ^ k % 2 := by
  have hshift : (UInt8.ofNat k).toNat = k :=
    UInt8.toNat_ofNat_of_lt' (by simp only [UInt8.size]; omega)
  rw [UInt8.toNat_and, UInt8.toNat_shiftRight, hshift, Nat.mod_eq_of_lt hk,
    Nat.shiftRight_eq_div_pow]
  exact Nat.and_one_is_mod _

theorem toNat_getElem_sprite (m : Machine) (x0 y0 n : Nat) (c : Fin 64) (r : Fin 32) :
    (m.sprite x0 y0 n)[c.val + 64 * r.val].toNat = m.spriteBit x0 y0 n c r := by
  rw [sprite, Screen.getElem_ofCells_at, spriteBit]
  split
  · exact toNat_shiftRight_and_one _ (by omega)
  · rfl

theorem getElem_sprite_iff (m : Machine) (x0 y0 n : Nat) (c : Fin 64) (r : Fin 32) :
    (m.sprite x0 y0 n)[c.val + 64 * r.val] = 1 ↔ m.spriteBit x0 y0 n c r = 1 := by
  rw [← toNat_getElem_sprite, ← UInt8.toNat_inj, UInt8.toNat_one]

theorem isBinary_sprite (m : Machine) (x0 y0 n : Nat) : (m.sprite x0 y0 n).IsBinary := by
  intro i hi
  obtain ⟨c, r, rfl⟩ := Screen.exists_column_row hi
  rw [getElem_sprite_iff, ← UInt8.toNat_inj, toNat_getElem_sprite]
  exact spriteBit_eq_zero_or_one m x0 y0 n c r

/-! ### Drawing -/

variable {m : Machine} {x y : Reg} {n : Nat}

theorem toNat_getElem_screen_draw (m : Machine) (x y : Reg) (n : Nat) (c : Fin 64) (r : Fin 32) :
    (m.draw x y n).screen[c.val + 64 * r.val].toNat =
      m.screen[c.val + 64 * r.val].toNat ^^^
        m.spriteBit (m.reg x).toNat (m.reg y).toNat n c r := by
  have hscreen : (m.draw x y n).screen =
      m.screen.overlay (m.sprite (m.reg x).toNat (m.reg y).toNat n) := rfl
  simp only [hscreen, Screen.toNat_getElem_overlay, toNat_getElem_sprite]

theorem reg_flagReg_draw_eq_ite (m : Machine) (x y : Reg) (n : Nat) :
    (m.draw x y n).reg flagReg =
      if m.screen.hits (m.sprite (m.reg x).toNat (m.reg y).toNat n) then 1 else 0 :=
  reg_setReg_self _ _ _

/-- The flag tells whether a set bit of the sprite met a lit cell. -/
theorem reg_flagReg_draw (m : Machine) (x y : Reg) (n : Nat) :
    (m.draw x y n).reg flagReg = 1 ∧
        (∃ (c : Fin 64) (r : Fin 32), m.spriteBit (m.reg x).toNat (m.reg y).toNat n c r = 1 ∧
          m.screen[c.val + 64 * r.val].toNat % 2 = 1) ∨
      (m.draw x y n).reg flagReg = 0 ∧
        ∀ (c : Fin 64) (r : Fin 32), m.spriteBit (m.reg x).toNat (m.reg y).toNat n c r = 1 →
          m.screen[c.val + 64 * r.val].toNat % 2 = 0 := by
  have hhits := Screen.hits_iff_exists_cell m.screen
    (isBinary_sprite m (m.reg x).toNat (m.reg y).toNat n)
  simp only [getElem_sprite_iff] at hhits
  rw [reg_flagReg_draw_eq_ite]
  split
  · next hmet =>
    exact Or.inl ⟨rfl, hhits.1 hmet⟩
  · next hmissed =>
    refine Or.inr ⟨rfl, ?_⟩
    intro c r hbit
    refine Nat.mod_two_ne_one.1 fun hlit => hmissed ?_
    exact hhits.2 ⟨c, r, hbit, hlit⟩

theorem agreeOff_draw (m : Machine) (x y : Reg) (n : Nat) :
    AgreeOff [.screen, .dirty, .reg flagReg] m (m.draw x y n) := by
  apply agreeOff_execute (i := .draw x y n)
  rintro p (rfl | rfl | rfl) <;> simp

/-- **The pixel law.**  A word that draws, with the position in two registers as it was before,
    lays the bits of its sprite over the screen by exclusive or, sets the flag register to one if a
    set bit met a lit cell and to zero otherwise, marks the screen, and changes nothing else.  A
    cell that holds another byte than 0 or 1 counts as lit by its last bit.  In particular no cell
    to the left of the sprite or above it changes: nothing wraps around. -/
theorem execute_flips_sprite (m : Machine) {word : Int}
    (hword : (Opcode.ofWord word).family = 0xD) :
    let x0 := (m.reg (Opcode.regX word)).toNat
    let y0 := (m.reg (Opcode.regY word)).toNat
    let s := m.spriteBit x0 y0 (Opcode.ofWord word).n
    let m' := m.execute word
    (∀ (c : Fin 64) (r : Fin 32), m'.screen[c.val + 64 * r.val].toNat =
      m.screen[c.val + 64 * r.val].toNat ^^^ s c r) ∧
    (m'.reg flagReg = 1 ∧ (∃ (c : Fin 64) (r : Fin 32), s c r = 1 ∧
        m.screen[c.val + 64 * r.val].toNat % 2 = 1) ∨
      m'.reg flagReg = 0 ∧ ∀ (c : Fin 64) (r : Fin 32), s c r = 1 →
        m.screen[c.val + 64 * r.val].toNat % 2 = 0) ∧
    m'.dirty = true ∧
    AgreeOff [.screen, .dirty, .reg flagReg] m m' ∧
    ∀ (c : Fin 64) (r : Fin 32), c.val < x0 ∨ r.val < y0 →
      m'.screen[c.val + 64 * r.val] = m.screen[c.val + 64 * r.val] := by
  intro x0 y0 s m'
  have hdraw : m' = m.draw (Opcode.regX word) (Opcode.regY word) (Opcode.ofWord word).n := by
    change (Instruction.ofWord word).execute m = _
    rw [Instruction.ofWord_of_draw hword]
    rfl
  have hcells : ∀ (c : Fin 64) (r : Fin 32), m'.screen[c.val + 64 * r.val].toNat =
      m.screen[c.val + 64 * r.val].toNat ^^^ s c r := by
    intro c r
    simp only [hdraw]
    exact toNat_getElem_screen_draw m _ _ _ c r
  refine ⟨hcells, ?_, ?_, ?_, ?_⟩
  · rw [hdraw]
    exact reg_flagReg_draw m _ _ _
  · rw [hdraw]
    rfl
  · rw [hdraw]
    exact agreeOff_draw m _ _ _
  · intro c r hbefore
    have hbit : s c r = 0 := if_neg (by omega)
    rw [← UInt8.toNat_inj, hcells, hbit, Nat.xor_zero]

/-- Two rows are drawn in the bottom right corner, with the row number in the flag register and
    from the last byte of memory on.  Four columns of one row fit; one of them met a lit cell.
    Nothing appears at the left edge. -/
theorem execute_flips_sprite_in_corner :
    let m : Machine :=
      { initial ⟨0, 0⟩ with
        memory := Memory.withFont.set 0xFFF 0xFF, index := 0xFFF
        regs := ((Vector.replicate 16 0).setIfInBounds 0 60).setIfInBounds 15 31
        screen := Screen.blank.set (62 + 64 * 31) 1 }
    let m' := m.execute 0xD0F2
    m'.screen[60 + 64 * 31].toNat = 1 ∧ m'.screen[62 + 64 * 31].toNat = 0 ∧
      m'.reg flagReg = 1 ∧ m'.screen[0 + 64 * 31] = m.screen[0 + 64 * 31] := by
  intro m m'
  have hreg : m.reg (Opcode.regX 0xD0F2) = 60 ∧ m.reg (Opcode.regY 0xD0F2) = 31 := by decide
  obtain ⟨hdark, hlit, hmet, hbit⟩ :
      m.screen[60 + 64 * 31].toNat ^^^ m.spriteBit 60 31 2 60 31 = 1 ∧
      m.screen[62 + 64 * 31].toNat ^^^ m.spriteBit 60 31 2 62 31 = 0 ∧
      m.screen[62 + 64 * 31].toNat % 2 = 1 ∧ m.spriteBit 60 31 2 62 31 = 1 := by
    decide +kernel
  have hword : (Opcode.ofWord 0xD0F2).family = 0xD := by decide
  obtain ⟨hcells, hflag, -, -, hwrap⟩ := execute_flips_sprite m hword
  rw [hreg.1, hreg.2] at hcells hflag hwrap
  refine ⟨(hcells 60 31).trans hdark, (hcells 62 31).trans hlit, ?_, hwrap 0 31 (Or.inl (by decide))⟩
  rcases hflag with ⟨hone, -⟩ | ⟨-, hnone⟩
  · exact hone
  · cases hmet.symm.trans (hnone 62 31 hbit)

end Machine

end Chip8
