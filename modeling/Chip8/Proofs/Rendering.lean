/-
  Chip8/Proofs/Rendering.lean
  ===========================
  **The rendering law** — the pixel in row `r` and column `c` of a picture shows the cell in row
  `r / k` and column `c / k`, where `k` is the side of a square; and so a picture in two different
  colours gives back which cells were lit.

  Squares are made by repeating pixels in a row and then rows, one law for both
  (`getElem?_stretch`).  Which sizes can be drawn is up to the host: `Fits` says what has to be
  countable and to fit in its memory, and everything else is refused (`refusal?_eq_none_iff`).
-/
import Chip8.Picture

namespace Chip8

/-- The colour of a pixel. -/
def Rgb.colour (p : Rgb) : Colour := ⟨p.red.toNat, p.green.toNat, p.blue.toNat⟩

theorem Colour.isByte_toNat (b : UInt8) : isByte b.toNat = true := by
  have hb := b.toNat_lt
  simp only [isByte, Bool.and_eq_true, decide_eq_true_eq]
  omega

theorem Colour.toRgb?_colour (p : Rgb) : p.colour.toRgb? = some p := by
  simp only [toRgb?, Rgb.colour, isByte_toNat, Bool.and_self, if_true, Int.toNat_natCast,
    UInt8.ofNat_toNat]

namespace Picture

variable {cells : List UInt8} {on off : Rgb} {k i j r c : Nat} {scale : Int}

/-! ### Rows of cells -/

theorem length_cellRows (cells : List UInt8) : (cellRows cells).length = Screen.height := by
  rw [cellRows, List.length_map, List.length_range]

theorem getElem?_cellRows (cells : List UInt8) (hi : i < Screen.height) :
    (cellRows cells)[i]? = some ((cells.drop (Screen.width * i)).take Screen.width) := by
  rw [cellRows, List.getElem?_map, List.getElem?_range hi]
  rfl

/-- A row of cells has its place in the list of cells. -/
theorem cell_of_row (cells : List UInt8) (hi : i < Screen.height) (hj : j < Screen.width) :
    ((cellRows cells)[i]?.bind fun row => row[j]?) = cells[j + Screen.width * i]? := by
  rw [getElem?_cellRows cells hi, Option.bind_some, List.getElem?_take_of_lt hj,
    List.getElem?_drop, Nat.add_comm]

theorem length_of_mem_cellRows (hcells : cells.length = Screen.size) {row : List UInt8}
    (hrow : row ∈ cellRows cells) : row.length = Screen.width := by
  obtain ⟨i, hi, rfl⟩ := List.mem_map.1 hrow
  have hi : i < 32 := List.mem_range.1 hi
  have hcells : cells.length = 2048 := hcells
  have hwidth : Screen.width = 64 := rfl
  rw [List.length_take, List.length_drop, hwidth]
  omega

/-! ### Pixels -/

theorem length_ofCells (cells : List UInt8) (k : Nat) (on off : Rgb) :
    (ofCells cells k on off).length = Screen.height * k := by
  rw [ofCells, length_stretch, List.length_map, length_cellRows, Nat.mul_comm]

theorem length_of_mem_ofCells (hcells : cells.length = Screen.size) {row : List Rgb}
    (hrow : row ∈ ofCells cells k on off) : row.length = Screen.width * k := by
  obtain ⟨drawn, hdrawn, hrow⟩ := List.mem_flatMap.1 hrow
  obtain ⟨row', hrow', rfl⟩ := List.mem_map.1 hdrawn
  rw [List.eq_of_mem_replicate hrow, length_stretch, List.length_map,
    length_of_mem_cellRows hcells hrow', Nat.mul_comm]

/-- A pixel shows the cell whose square it lies in. -/
theorem pixel?_ofCells (hk : 0 < k) (hr : r / k < Screen.height) (hc : c / k < Screen.width) :
    (ofCells cells k on off).pixel? r c =
      cells[c / k + Screen.width * (r / k)]?.map (ofCell on off) := by
  rw [← cell_of_row cells hr hc, pixel?, ofCells, getElem?_stretch hk, List.getElem?_map]
  cases (cellRows cells)[r / k]? with
  | none => rfl
  | some row =>
    simp only [Option.map_some, Option.bind_some]
    rw [getElem?_stretch hk, List.getElem?_map]

/-- A picture shows cells in squares of `k` pixels a side, lit ones in one colour and dark ones in
    another. -/
structure Depicts (p : Picture) (cells : Vector UInt8 2048) (k : Nat) (on off : Rgb) : Prop where
  height_eq : p.length = 32 * k
  width_eq : ∀ row ∈ p, row.length = 64 * k
  pixel_eq : ∀ r c, r < 32 * k → c < 64 * k →
    ∃ cell, cells[c / k + 64 * (r / k)]? = some cell ∧
      p.pixel? r c = some (if cell ≠ 0 then on else off)

theorem depicts_ofCells (cells : Vector UInt8 2048) (hk : 0 < k) (on off : Rgb) :
    (ofCells cells.toList k on off).Depicts cells k on off where
  height_eq := length_ofCells cells.toList k on off
  width_eq row hrow := length_of_mem_ofCells cells.length_toList hrow
  pixel_eq r c hr hc := by
    have hrow : r / k < 32 := Nat.div_lt_of_lt_mul (Nat.mul_comm 32 k ▸ hr)
    have hcolumn : c / k < 64 := Nat.div_lt_of_lt_mul (Nat.mul_comm 64 k ▸ hc)
    have hplace : c / k + 64 * (r / k) < 2048 := by omega
    refine ⟨cells[c / k + 64 * (r / k)], Vector.getElem?_eq_getElem hplace, ?_⟩
    have hcell : cells.toList[c / k + Screen.width * (r / k)]? =
        some cells[c / k + 64 * (r / k)] := by
      rw [Vector.getElem?_toList]
      exact Vector.getElem?_eq_getElem hplace
    rw [pixel?_ofCells hk hrow hcolumn, hcell, Option.map_some, ofCell, ite_not]

/-- Cells that come row by row fill their squares. -/
theorem Depicts.pixel_of_rows {p : Picture} {rows : Vector (Vector UInt8 64) 32}
    (h : p.Depicts rows.flatten k on off) (i : Fin 32) (j : Fin 64) {a b : Nat} (ha : a < k)
    (hb : b < k) :
    p.pixel? (i * k + a) (j * k + b) = some (if rows[i][j] ≠ 0 then on else off) := by
  have hk : 0 < k := Nat.zero_lt_of_lt ha
  have hinside : ∀ {n limit m : Nat}, n < limit → m < k → n * k + m < limit * k := by
    intro n limit m hn hm
    calc n * k + m < n * k + k := Nat.add_lt_add_left hm _
      _ = (n + 1) * k := (Nat.succ_mul n k).symm
      _ ≤ limit * k := Nat.mul_le_mul_right k hn
  have hsquare : ∀ {n m : Nat}, m < k → (n * k + m) / k = n := by
    intro n m hm
    rw [Nat.add_comm, Nat.add_mul_div_right _ _ hk, Nat.div_eq_of_lt hm, Nat.zero_add]
  obtain ⟨cell, hcell, hpixel⟩ := h.pixel_eq _ _ (hinside i.isLt ha) (hinside j.isLt hb)
  rw [hsquare ha, hsquare hb, Vector.getElem?_eq_getElem (by omega), Vector.getElem_flatten]
    at hcell
  have hrow : (j.val + 64 * i.val) / 64 = i.val := by omega
  have hcolumn : (j.val + 64 * i.val) % 64 = j.val := by omega
  simp only [hrow, hcolumn, Option.some.injEq] at hcell
  rw [hpixel, ← hcell]
  rfl

/-! ### Reading a picture back -/

/-- Which cells a picture shows lit, by the corners of their squares. -/
def lit (p : Picture) (k : Nat) (on : Rgb) : Vector Bool 2048 :=
  Vector.ofFn fun i => p.pixel? (i.val / 64 * k) (i.val % 64 * k) == some on

theorem Depicts.getElem_lit {p : Picture} {cells : Vector UInt8 2048}
    (h : p.Depicts cells k on off) (hk : 0 < k) (hcolours : on ≠ off) (hi : i < 2048) :
    (p.lit k on)[i] = (cells[i] != 0) := by
  obtain ⟨cell, hcell, hpixel⟩ := h.pixel_eq (i / 64 * k) (i % 64 * k)
    (Nat.mul_lt_mul_of_pos_right (by omega) hk) (Nat.mul_lt_mul_of_pos_right (by omega) hk)
  rw [Nat.mul_div_cancel _ hk, Nat.mul_div_cancel _ hk, Nat.mod_add_div,
    Vector.getElem?_eq_getElem hi] at hcell
  have hread : (p.lit k on)[i] = (p.pixel? (i / 64 * k) (i % 64 * k) == some on) := by
    rw [lit, Vector.getElem_ofFn]
  rw [hread, hpixel, Option.some.inj hcell]
  by_cases hzero : cell = 0
  · simp [hzero, hcolours.symm]
  · simp [hzero]

/-! ### Sizes -/

/-- Squares of a size can be drawn on a host: they have one pixel, or the bytes of the whole
    picture can be counted and there is memory for the repeated rows and for the picture. -/
def Fits (host : Host) (scale : Int) : Prop :=
  scale = 1 ∨ bytesPerScreen * scale * scale < countLimit ∧
    host.allocates (bytesPerScreen * scale) = true ∧
    host.allocates (bytesPerScreen * scale * scale) = true

/-- If the bytes of the whole picture can be counted, so can all that is counted before. -/
theorem refusal?_eq_none_iff (host : Host) (hscale : 1 ≤ scale) :
    refusal? host scale = none ↔ Fits host scale := by
  have hrows : scale ≤ bytesPerScreen * scale := by
    rw [show bytesPerScreen = 6144 by decide]
    omega
  have hall := Int.mul_le_mul_of_nonneg_left hscale (Int.le_trans (by omega) hrows)
  rw [Int.mul_one] at hall
  unfold refusal? Fits
  generalize bytesPerScreen * scale * scale = whole, bytesPerScreen * scale = rows at hrows hall
  grind

/-! ### Drawing -/

theorem render_eq (host : Host) (cells : Vector UInt8 2048) (hscale : 1 ≤ scale) (on off : Rgb) :
    render host cells.toList scale on.colour off.colour =
      match refusal? host scale with
      | none => .ok (ofCells cells.toList scale.toNat on off)
      | some e => .error e := by
  have hcells : cells.toList.length = Screen.size := cells.length_toList
  rw [render, if_neg (Int.not_lt.2 hscale), if_neg (not_not_intro hcells),
    Colour.toRgb?_colour, Colour.toRgb?_colour]
  cases refusal? host scale <;> rfl

/-- **The rendering law.**  A screen of cells is drawn with squares of every size that fits on the
    host: each pixel has the colour of the cell in whose square it lies, whether the cells come
    one after another or row by row, and in two different colours the picture gives back which
    cells are lit.  For every other size there is a refusal.  Squares without pixels, and cells
    that are not one screen, are refused whatever the colours. -/
theorem render_depicts (host : Host) :
    (∀ (cells : Vector UInt8 2048) (scale : Int) (on off : Rgb), 1 ≤ scale →
      (Fits host scale →
        ∃ p, render host cells.toList scale on.colour off.colour = .ok p ∧
          p.Depicts cells scale.toNat on off ∧
          (∀ rows : Vector (Vector UInt8 64) 32, cells = rows.flatten →
            ∀ (i : Fin 32) (j : Fin 64) (a b : Nat), a < scale.toNat → b < scale.toNat →
              p.pixel? (i * scale.toNat + a) (j * scale.toNat + b) =
                some (if rows[i][j] ≠ 0 then on else off)) ∧
          (on ≠ off → ∀ (i : Nat) (hi : i < 2048),
            (p.lit scale.toNat on)[i] = (cells[i] != 0))) ∧
      (¬ Fits host scale →
        ∃ e, refusal? host scale = some e ∧
          render host cells.toList scale on.colour off.colour = .error e)) ∧
    ∀ (cells : List UInt8) (scale : Int) (on off : Colour),
      (scale < 1 → render host cells scale on off = .error (.badScale scale)) ∧
      (1 ≤ scale → cells.length ≠ Screen.size →
        render host cells scale on off = .error (.badCellCount cells.length)) := by
  refine ⟨?_, ?_⟩
  · intro cells scale on off hscale
    have hpos : 0 < scale.toNat := by omega
    refine ⟨?_, ?_⟩
    · intro hfits
      have hdepicts := depicts_ofCells cells hpos on off
      refine ⟨_, ?_, hdepicts, ?_, fun hcolours i hi => hdepicts.getElem_lit hpos hcolours hi⟩
      · rw [render_eq host cells hscale, (refusal?_eq_none_iff host hscale).2 hfits]
      · rintro rows rfl i j a b ha hb
        exact hdepicts.pixel_of_rows i j ha hb
    · intro hlarge
      cases hrefusal : refusal? host scale with
      | none => exact absurd ((refusal?_eq_none_iff host hscale).1 hrefusal) hlarge
      | some e => exact ⟨e, rfl, by rw [render_eq host cells hscale, hrefusal]⟩
  · intro cells scale on off
    refine ⟨fun hscale => by rw [render, if_pos hscale], fun hscale hcells => ?_⟩
    rw [render, if_neg (Int.not_lt.2 hscale), if_pos hcells]

/-- The third cell of the second row alone is lit; it gives a square of four pixels.  In a memory
    of 64 GiB there is no room for squares of 2¹⁴ pixels a side. -/
theorem render_depicts_one_cell :
    let host := Host.desktop 16384 0x1000000000
    let rows : Vector (Vector UInt8 64) 32 :=
      Vector.ofFn fun i => Vector.ofFn fun j => if i = 1 ∧ j = 2 then 3 else 0
    let cells : Vector UInt8 2048 := rows.flatten
    let on : Rgb := ⟨255, 176, 0⟩
    let off : Rgb := ⟨0, 0, 64⟩
    (∃ p, render host cells.toList 2 on.colour off.colour = .ok p ∧ p.length = 64 ∧
      p.pixel? 3 4 = some on ∧ p.pixel? 4 3 = some off ∧
      (p.lit 2 on)[66] = true ∧ (p.lit 2 on)[129] = false) ∧
    (∃ e, render host cells.toList 0x4000 on.colour off.colour = .error e) ∧
    render host cells.toList 0 on.colour off.colour = .error (.badScale 0) ∧
    render host [3, 0] 2 on.colour off.colour = .error (.badCellCount 2) := by
  intro host rows cells on off
  obtain ⟨hdrawn, hrefused⟩ := render_depicts host
  obtain ⟨hfits, -⟩ := hdrawn cells 2 on off (by decide)
  obtain ⟨-, hlarge⟩ := hdrawn cells 0x4000 on off (by decide)
  obtain ⟨p, hp, hdepicts, hrows, hlit⟩ := hfits (by unfold Fits; decide)
  obtain ⟨e, -, he⟩ := hlarge (by unfold Fits; decide)
  have hcolours : on ≠ off := by decide
  have hcell : ∀ (i : Nat) (hi : i < 2048), cells[i] = rows[i / 64][i % 64] :=
    fun i hi => Vector.getElem_flatten hi
  refine ⟨⟨p, hp, hdepicts.height_eq, hrows rows rfl 1 2 1 0 (by decide) (by decide),
    hrows rows rfl 2 1 0 1 (by decide) (by decide), ?_, ?_⟩, ⟨e, he⟩,
    (hrefused cells.toList 0 _ _).1 (by decide), (hrefused [3, 0] 2 _ _).2 (by decide) (by decide)⟩
  · exact (hlit hcolours 66 (by decide)).trans (by rw [hcell]; decide)
  · exact (hlit hcolours 129 (by decide)).trans (by rw [hcell]; decide)

/-- **Limits of what can be drawn.**  The bytes of a picture with squares of 2⁵² pixels a side
    cannot be counted, and a side of 2⁶³ pixels cannot be counted itself. -/
theorem render_refuses_scale :
    let host := Host.desktop 16384 0x1000000000
    let cells : Vector UInt8 2048 := Vector.replicate 2048 0
    ((1 : Int) ≤ 0x10000000000000 ∧
      render host cells.toList 0x10000000000000 Colour.white Colour.black =
        .error .pictureOutOfRange) ∧
    ((1 : Int) ≤ 0x8000000000000000 ∧
      render host cells.toList 0x8000000000000000 Colour.white Colour.black =
        .error .scaleOutOfRange) := by
  intro host cells
  refine ⟨⟨by decide, ?_⟩, by decide, ?_⟩
  · exact render_eq host cells (by decide) ⟨255, 255, 255⟩ ⟨0, 0, 0⟩
  · exact render_eq host cells (by decide) ⟨255, 255, 255⟩ ⟨0, 0, 0⟩

end Picture

end Chip8
