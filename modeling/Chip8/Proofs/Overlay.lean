/-
  Chip8/Proofs/Overlay.lean
  =========================
  **Draws act by exclusive or** — what a list of draws leaves on the screen does not depend on
  their order, and two equal draws leave nothing.

  A draw is four words: they load a column, a row and an address, and draw.  What they lay over the
  screen is a picture that is made from memory alone (`Draw.picture`), and no draw writes memory.
  So a list of draws is a fold of `Screen.overlay` over its pictures (`screen_runDraws`), and
  overlaying is a group action: pictures can be exchanged, and each is its own inverse.
-/
import Chip8.Proofs.Drawing
import Mathlib.Data.List.Perm.Basic

namespace Chip8

/-! ### Overlaying -/

namespace Screen

/-- A picture laid over a screen twice is gone. -/
theorem overlay_overlay_self (s t : Screen) : (s.overlay t).overlay t = s := by
  refine Vector.ext fun i hi => ?_
  rw [getElem_overlay, getElem_overlay, UInt8.xor_assoc, UInt8.xor_self, UInt8.xor_zero]

theorem overlay_right_comm (s t u : Screen) :
    (s.overlay t).overlay u = (s.overlay u).overlay t := by
  refine Vector.ext fun i hi => ?_
  simp only [getElem_overlay]
  rw [UInt8.xor_assoc, UInt8.xor_comm t[i], ← UInt8.xor_assoc]

end Screen

/-! ### A draw and its words -/

/-- A sprite of some rows, from an address on, at a column and a row. -/
structure Draw where
  x : UInt8
  y : UInt8
  address : Address
  rows : Fin 16
  deriving DecidableEq, Repr

namespace Draw

/-- The words of a draw: column and row to registers 0 and 1, the address to the index register,
    and the drawing. -/
def words (d : Draw) : List Nat :=
  [0x6000 + d.x.toNat, 0x6100 + d.y.toNat, 0xA000 + d.address, 0xD010 + d.rows]

/-- The picture that a draw lays over the screen of a machine. -/
def picture (m : Machine) (d : Draw) : Screen :=
  { m with index := UInt16.ofNat d.address }.sprite d.x.toNat d.y.toNat d.rows

end Draw

/-! ### Reading the words of a draw -/

namespace Opcode

variable {w : Nat} {r : Reg}

theorem regX_natCast (hw : w < 65536) (hr : w / 256 % 16 = r) : regX (w : Int) = r := by
  apply Fin.ext
  simp only [regX, ofWord_natCast hw]
  exact hr

theorem regY_natCast (hw : w < 65536) (hr : w / 16 % 16 = r) : regY (w : Int) = r := by
  apply Fin.ext
  simp only [regY, ofWord_natCast hw]
  exact hr

end Opcode

namespace Instruction

theorem ofWord_loadWord (x : Reg) (b : UInt8) :
    ofWord ((0x6000 + 256 * x.val + b.toNat : Nat) : Int) = .load x b := by
  have hx := x.isLt
  have hb := b.toNat_lt
  have hfields := Opcode.ofWord_natCast (w := 0x6000 + 256 * x.val + b.toNat) (by omega)
  have hregX : Opcode.regX ((0x6000 + 256 * x.val + b.toNat : Nat) : Int) = x :=
    Opcode.regX_natCast (by omega) (by omega)
  have hnn : (0x6000 + 256 * x.val + b.toNat) % 256 = b.toNat := by omega
  have hfamily : (0x6000 + 256 * x.val + b.toNat) / 4096 = 0x6 := by omega
  rw [ofWord_of_load (by rw [hfields]; exact hfamily), hregX, hfields]
  simp only [hnn, UInt8.ofNat_toNat]

theorem ofWord_indexWord (a : Address) :
    ofWord ((0xA000 + a.val : Nat) : Int) = .setIndex a := by
  have ha := a.isLt
  have hfields := Opcode.ofWord_natCast (w := 0xA000 + a.val) (by omega)
  have hfamily : (0xA000 + a.val) / 4096 = 0xA := by omega
  rw [ofWord_of_setIndex (by rw [hfields]; exact hfamily), hfields]
  congr 1
  apply Fin.ext
  simp only [Fin.val_ofNat]
  omega

theorem ofWord_drawWord (n : Fin 16) : ofWord ((0xD010 + n.val : Nat) : Int) = .draw 0 1 n := by
  have hn := n.isLt
  have hfields := Opcode.ofWord_natCast (w := 0xD010 + n.val) (by omega)
  have hregX : Opcode.regX ((0xD010 + n.val : Nat) : Int) = 0 :=
    Opcode.regX_natCast (by omega) (by omega)
  have hregY : Opcode.regY ((0xD010 + n.val : Nat) : Int) = 1 :=
    Opcode.regY_natCast (by omega) (by omega)
  have hrows : (0xD010 + n.val) % 16 = n := by omega
  have hfamily : (0xD010 + n.val) / 4096 = 0xD := by omega
  rw [ofWord_of_draw (by rw [hfields]; exact hfamily), hregX, hregY, hfields]
  simp only [hrows]

end Instruction

/-- What the words of a draw read as. -/
theorem Draw.map_ofWord_words (d : Draw) :
    d.words.map (fun w : Nat => Instruction.ofWord w) =
      [.load 0 d.x, .load 1 d.y, .setIndex d.address, .draw 0 1 d.rows] := by
  have hx := Instruction.ofWord_loadWord 0 d.x
  have hy := Instruction.ofWord_loadWord 1 d.y
  simp only [words, List.map_cons, List.map_nil, ← hx, ← hy, Instruction.ofWord_indexWord,
    Instruction.ofWord_drawWord]
  rfl

namespace Machine

variable {m m' : Machine} {x y : Reg} {n : Nat}

/-! ### Drawing twice -/

theorem execute_of_draw (m : Machine) {word : Int} (h : (Opcode.ofWord word).family = 0xD) :
    m.execute word = m.draw (Opcode.regX word) (Opcode.regY word) (Opcode.ofWord word).n := by
  rw [execute, Instruction.ofWord_of_draw h]
  rfl

theorem sprite_congr (hmemory : m'.memory = m.memory) (hindex : m'.index = m.index)
    (x0 y0 n : Nat) : m'.sprite x0 y0 n = m.sprite x0 y0 n := by
  simp only [sprite, byteAt, hmemory, hindex]

theorem screen_draw (m : Machine) (x y : Reg) (n : Nat) :
    (m.draw x y n).screen = m.screen.overlay (m.sprite (m.reg x).toNat (m.reg y).toNat n) := rfl

theorem reg_draw_of_ne (m : Machine) (x y : Reg) (n : Nat) {r : Reg} (h : r ≠ flagReg) :
    (m.draw x y n).reg r = m.reg r := by
  apply agreeOff_draw m x y n (.reg r)
  simpa using h

theorem reg_flagReg_draw_eq_one_iff (m : Machine) (x y : Reg) (n : Nat) :
    (m.draw x y n).reg flagReg = 1 ↔
      m.screen.hits (m.sprite (m.reg x).toNat (m.reg y).toNat n) = true := by
  rw [reg_flagReg_draw_eq_ite]
  split <;> simp_all

/-- Drawn again from registers that the flag does not go to, a sprite is the same. -/
theorem sprite_draw (hx : x ≠ flagReg) (hy : y ≠ flagReg) :
    let m' := m.draw x y n
    m'.sprite (m'.reg x).toNat (m'.reg y).toNat n =
      m.sprite (m.reg x).toNat (m.reg y).toNat n := by
  simp only [reg_draw_of_ne m x y n hx, reg_draw_of_ne m x y n hy]
  exact sprite_congr rfl rfl _ _ _

theorem screen_draw_draw (hx : x ≠ flagReg) (hy : y ≠ flagReg) :
    ((m.draw x y n).draw x y n).screen = m.screen := by
  rw [screen_draw, sprite_draw hx hy, screen_draw, Screen.overlay_overlay_self]

/-- One of two draws of a sprite meets a lit cell just when the sprite has a set bit on the
    screen. -/
theorem flag_draw_draw_iff (hx : x ≠ flagReg) (hy : y ≠ flagReg) :
    (m.draw x y n).reg flagReg = 1 ∨ ((m.draw x y n).draw x y n).reg flagReg = 1 ↔
      ∃ (c : Fin 64) (r : Fin 32), m.spriteBit (m.reg x).toNat (m.reg y).toNat n c r = 1 := by
  rw [reg_flagReg_draw_eq_one_iff, reg_flagReg_draw_eq_one_iff, sprite_draw hx hy, screen_draw,
    Screen.hits_or_hits_overlay _ (isBinary_sprite m _ _ n)]
  simp only [getElem_sprite_iff]

/-! ### Lists of draws -/

/-- The machine after the words of a draw. -/
def runDraw (m : Machine) (d : Draw) : Machine := d.words.foldl (fun m (w : Nat) => m.execute w) m

/-- The machine after a list of draws. -/
def runDraws (m : Machine) (ds : List Draw) : Machine := ds.foldl runDraw m

theorem reg_setReg_setReg (m : Machine) (a b : UInt8) :
    ((m.setReg 0 a).setReg 1 b).reg 0 = a ∧ ((m.setReg 0 a).setReg 1 b).reg 1 = b := by
  constructor
  · have hkept : (Part.reg 0).Agrees (m.setReg 0 a) ((m.setReg 0 a).setReg 1 b) :=
      Part.agrees_setReg (by decide) _
    exact Eq.trans hkept (reg_setReg_self m 0 a)
  · exact reg_setReg_self (m.setReg 0 a) 1 b

theorem runDraw_eq (m : Machine) (d : Draw) :
    m.runDraw d = Machine.draw
      { (m.setReg 0 d.x).setReg 1 d.y with index := UInt16.ofNat d.address } 0 1 d.rows := by
  have hread : m.runDraw d =
      (d.words.map fun w : Nat => Instruction.ofWord w).foldl (fun m i => i.execute m) m := by
    rw [List.foldl_map]
    rfl
  rw [hread, Draw.map_ofWord_words]
  rfl

theorem memory_runDraw (m : Machine) (d : Draw) : (m.runDraw d).memory = m.memory := by
  rw [runDraw_eq]
  rfl

/-- A draw lays its picture over the screen. -/
theorem screen_runDraw (m : Machine) (d : Draw) :
    (m.runDraw d).screen = m.screen.overlay (d.picture m) := by
  obtain ⟨hx, hy⟩ := m.reg_setReg_setReg d.x d.y
  rw [runDraw_eq, screen_draw]
  simp only [reg] at hx hy ⊢
  rw [hx, hy]
  exact congrArg m.screen.overlay (sprite_congr rfl rfl _ _ _)

theorem picture_congr (hmemory : m'.memory = m.memory) (d : Draw) :
    d.picture m' = d.picture m := by
  apply sprite_congr
  · exact hmemory
  · rfl

/-- Draws write no memory, so all their pictures are those of the machine before. -/
theorem screen_runDraws (m : Machine) (ds : List Draw) :
    (m.runDraws ds).screen = (ds.map (Draw.picture m)).foldl Screen.overlay m.screen := by
  induction ds generalizing m with
  | nil => rfl
  | cons d ds ih =>
    have hpictures : Draw.picture (m.runDraw d) = Draw.picture m :=
      funext fun e => picture_congr (m.memory_runDraw d) e
    have hrest := ih (m.runDraw d)
    rw [hpictures, screen_runDraw] at hrest
    exact hrest

theorem screen_runDraws_perm {ds es : List Draw} (h : ds.Perm es) (m : Machine) :
    (m.runDraws ds).screen = (m.runDraws es).screen := by
  rw [screen_runDraws, screen_runDraws]
  refine (h.map _).foldl_eq' ?_ _
  intro t _ u _ s
  exact Screen.overlay_right_comm s t u

theorem screen_runDraws_cons_cons (m : Machine) (d : Draw) (ds : List Draw) :
    (m.runDraws (d :: d :: ds)).screen = (m.runDraws ds).screen := by
  simp only [screen_runDraws, List.map_cons, List.foldl_cons, Screen.overlay_overlay_self]

/-- Two equal draws leave nothing on the screen, wherever they stand in a list. -/
theorem screen_runDraws_cancel (m : Machine) (d : Draw) (as bs cs : List Draw) :
    (m.runDraws (as ++ d :: bs ++ d :: cs)).screen = (m.runDraws (as ++ bs ++ cs)).screen := by
  have hfront : (as ++ d :: bs ++ d :: cs).Perm (d :: d :: (as ++ bs ++ cs)) := by
    have hlast : (as ++ d :: bs ++ d :: cs).Perm (d :: (as ++ d :: bs ++ cs)) :=
      List.perm_middle
    have hfirst : (as ++ d :: bs ++ cs).Perm (d :: (as ++ bs ++ cs)) := by
      simp only [List.append_assoc, List.cons_append]
      exact List.perm_middle
    exact hlast.trans (hfirst.cons d)
  rw [screen_runDraws_perm hfront, screen_runDraws_cons_cons]

/-- **Drawing is a group action.**  What a list of draws leaves on the screen is the same in every
    order of the list, and the same without two equal draws.  A word that draws from registers
    other than the flag register restores the screen when it is executed again, and of the two
    flags one is set just when its sprite has a set bit on the screen. -/
theorem draws_act (m : Machine) :
    (∀ ds es : List Draw, ds.Perm es → (m.runDraws ds).screen = (m.runDraws es).screen) ∧
    (∀ (d : Draw) (as bs cs : List Draw),
      (m.runDraws (as ++ d :: bs ++ d :: cs)).screen = (m.runDraws (as ++ bs ++ cs)).screen) ∧
    ∀ word : Int, (Opcode.ofWord word).family = 0xD →
      Opcode.regX word ≠ flagReg → Opcode.regY word ≠ flagReg →
      let x0 := (m.reg (Opcode.regX word)).toNat
      let y0 := (m.reg (Opcode.regY word)).toNat
      let once := m.execute word
      let twice := once.execute word
      twice.screen = m.screen ∧
      (once.reg flagReg = 1 ∨ twice.reg flagReg = 1 ↔
        ∃ (c : Fin 64) (r : Fin 32), m.spriteBit x0 y0 (Opcode.ofWord word).n c r = 1) := by
  refine ⟨fun ds es h => screen_runDraws_perm h m, screen_runDraws_cancel m, ?_⟩
  intro word hword hx hy x0 y0 once twice
  have honce : once = m.draw (Opcode.regX word) (Opcode.regY word) (Opcode.ofWord word).n :=
    m.execute_of_draw hword
  have htwice : twice = once.draw (Opcode.regX word) (Opcode.regY word) (Opcode.ofWord word).n :=
    once.execute_of_draw hword
  rw [htwice, honce]
  exact ⟨screen_draw_draw hx hy, flag_draw_draw_iff hx hy⟩

/-- The digits 0 and 1 are drawn over each other in the bottom right corner, where both are cut
    off, in either order; what stands between two equal draws is all that is left of them; and a
    digit drawn twice on a dark screen is gone and has met itself. -/
theorem draws_act_in_corner :
    let m : Machine := { initial ⟨0, 0⟩ with regs := (Vector.replicate 16 0).set 2 30 }
    let zero : Draw := ⟨62, 30, 0, 5⟩
    let one : Draw := ⟨60, 29, 5, 5⟩
    (m.runDraws [zero, one]).screen = (m.runDraws [one, zero]).screen ∧
    (m.runDraws [zero, one, zero]).screen = (m.runDraws [one]).screen ∧
    ((m.execute 0xD225).execute 0xD225).screen = m.screen ∧
    ((m.execute 0xD225).reg flagReg = 1 ∨ ((m.execute 0xD225).execute 0xD225).reg flagReg = 1) := by
  intro m zero one
  obtain ⟨hperm, hcancel, htwice⟩ := draws_act m
  have hword : (Opcode.ofWord 0xD225).family = 0xD := by decide
  have hx : Opcode.regX 0xD225 ≠ flagReg := by decide
  have hy : Opcode.regY 0xD225 ≠ flagReg := by decide
  have hbit : m.spriteBit 30 30 5 30 30 = 1 := by decide +kernel
  obtain ⟨hrestored, hflag⟩ := htwice 0xD225 hword hx hy
  refine ⟨hperm _ _ (List.Perm.swap one zero []), hcancel zero [] [one] [], hrestored, ?_⟩
  exact hflag.2 ⟨30, 30, hbit⟩

end Machine

end Chip8
