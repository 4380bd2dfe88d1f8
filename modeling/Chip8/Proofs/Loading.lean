/-
  Chip8/Proofs/Loading.lean
  =========================
  **Loading is an overlay** — an image comes to lie over memory from the program start on, and
  everything else is as it was.

  A second image covers the beginning of the first, so loading both is loading the second one with
  what is left of the first (`loadProgram_loadProgram`).  What was loaded is what is fetched: two
  bytes of an image at an even place are the word that a machine with this memory reads there,
  up to the last two addresses.
-/
import Chip8.Proofs.Bounds

namespace Chip8

/-- Of two blocks that are written from one place on, the second is there, and what it leaves of
    the first. -/
theorem Cells.writeAll_writeAll {α : Type} {n : Nat} (v : Vector α n) (i : Nat) (as bs : List α) :
    writeAll (writeAll v i as) i bs = writeAll v i (bs ++ as.drop bs.length) := by
  ext j hj
  rw [getElem_writeAll, getElem_writeAll, getElem_writeAll]
  by_cases hij : i ≤ j
  · rw [if_pos hij, if_pos hij, if_pos hij]
    simp only [List.getD_eq_getElem?_getD, List.getElem?_append, List.getElem?_drop]
    by_cases hin : j - i < bs.length
    · rw [if_pos hin, List.getElem?_eq_getElem hin, Option.getD_some, Option.getD_some]
    · have hrest : bs.length + (j - i - bs.length) = j - i := by omega
      rw [if_neg hin, List.getElem?_eq_none (Nat.le_of_not_lt hin), Option.getD_none, hrest]
  · rw [if_neg hij, if_neg hij, if_neg hij]

namespace Machine

variable {m m' : Machine} {image : List UInt8}

/-- The machine differs from the one before by an image over its memory, the whole of which has
    found a place. -/
structure Overlays (m m' : Machine) (image : List UInt8) : Prop where
  loaded : ∀ (i : Nat) (h : i < image.length),
    ∃ a : Fin 4096, a.val = Memory.programStart + i ∧ m'.memory.get a = image[i]
  kept : ∀ a : Fin 4096,
    ¬ (Memory.programStart ≤ a ∧ a < Memory.programStart + image.length) →
      m'.memory.get a = m.memory.get a
  others : ∀ p : Part, (∀ a, p ≠ .byte a) → p.Agrees m m'

/-! ### One image -/

theorem loadProgram_eq_error_iff {e : Error} :
    m.loadProgram image = .error e ↔
      3584 < image.length ∧ e = .capacityExceeded image.length 3584 := by
  unfold loadProgram
  constructor
  · intro h
    split at h
    · next hsize => exact ⟨hsize, (Except.error.inj h).symm⟩
    · cases h
  · rintro ⟨hsize, rfl⟩
    exact if_pos hsize

theorem loadProgram_of_le (m : Machine) (h : image.length ≤ 3584) :
    m.loadProgram image =
      .ok { m with memory := Cells.writeAll m.memory Memory.programStart image } :=
  if_neg (Nat.not_lt.2 h)

theorem overlays_writeAll (m : Machine) (h : image.length ≤ 3584) :
    m.Overlays { m with memory := Cells.writeAll m.memory Memory.programStart image } image where
  loaded i hi := by
    have hin : Memory.programStart + i < 4096 := by
      simp only [Memory.programStart]
      omega
    refine ⟨⟨Memory.programStart + i, hin⟩, rfl, ?_⟩
    change (Cells.writeAll m.memory Memory.programStart image)[Memory.programStart + i] = image[i]
    rw [Cells.getElem_writeAll, if_pos (Nat.le_add_right ..), Nat.add_sub_cancel_left,
      List.getD_eq_getElem?_getD, List.getElem?_eq_getElem hi, Option.getD_some]
  kept a ha := Cells.getElem_writeAll_of_not_mem _ ha
  others p hp := Part.agrees_memory hp _

/-! ### Fetching what was loaded -/

/-- The words of an image are those that a machine with the memory reads. -/
theorem Overlays.peek (h : m.Overlays m' image) {k : Machine} (hmemory : k.memory = m'.memory)
    {i : Nat} (hi : 2 * i + 1 < image.length) (hpc : k.pc.toNat = 0x200 + 2 * i) :
    k.peek = 256 * image[2 * i].toNat + image[2 * i + 1].toNat := by
  obtain ⟨high, hhigh, hhighByte⟩ := h.loaded (2 * i) (Nat.lt_of_succ_lt hi)
  obtain ⟨low, hlow, hlowByte⟩ := h.loaded (2 * i + 1) hi
  have hfirst : high.val = k.pc.toNat := hhigh.trans hpc.symm
  have hsecond : low.val = k.pc.toNat + 1 := by
    rw [hlow, hpc]
    rfl
  have hin : k.pc.toNat + 1 < 4096 := hsecond ▸ low.isLt
  rw [← hhighByte, ← hlowByte, (peek_eq hin).2]
  change _ = 256 * m'.memory[high.val].toNat + m'.memory[low.val].toNat
  simp only [hmemory, hfirst, hsecond]

/-! ### Two images -/

theorem loadProgram_loadProgram {p q : List UInt8} (hp : m.loadProgram p = .ok m')
    (hq : q.length ≤ 3584) :
    m'.loadProgram q = m.loadProgram (q ++ p.drop q.length) := by
  have hsize : p.length ≤ 3584 := by
    refine Nat.le_of_not_lt fun hlarge => ?_
    rw [loadProgram_eq_error_iff.2 ⟨hlarge, rfl⟩] at hp
    cases hp
  rw [loadProgram_of_le m hsize] at hp
  obtain rfl := Except.ok.inj hp
  have hboth : (q ++ p.drop q.length).length ≤ 3584 := by
    rw [List.length_append, List.length_drop]
    omega
  rw [loadProgram_of_le _ hq, loadProgram_of_le m hboth]
  dsimp only
  rw [Cells.writeAll_writeAll]

/-- **Loading is an exact overlay, and is fetched again.**  An image is refused just when it is
    larger than program memory.  Otherwise it lies over memory and nothing else changes; its words
    are those that a machine with this memory reads; and a second image lies over it in turn, with
    what is left of the first image after it, so that the first leaves no trace if it is not the
    longer one. -/
theorem loadProgram_overlays (m : Machine) (p q : List UInt8) :
    (∀ e, m.loadProgram p = .error e ↔
      3584 < p.length ∧ e = .capacityExceeded p.length 3584) ∧
    (p.length ≤ 3584 → ∃ m', m.loadProgram p = .ok m' ∧ m.Overlays m' p ∧
      (∀ k : Machine, k.memory = m'.memory → ∀ (i : Nat) (hi : 2 * i + 1 < p.length),
        k.pc.toNat = 0x200 + 2 * i → k.peek = 256 * p[2 * i].toNat + p[2 * i + 1].toNat) ∧
      (q.length ≤ 3584 → ∃ m'', m'.loadProgram q = .ok m'' ∧
        m.Overlays m'' (q ++ p.drop q.length) ∧
        (p.length ≤ q.length → m.loadProgram q = .ok m''))) := by
  refine ⟨fun e => loadProgram_eq_error_iff, ?_⟩
  intro hp
  have hload := loadProgram_of_le m hp
  have hoverlays := overlays_writeAll m hp
  refine ⟨_, hload, hoverlays, fun k hmemory i hi hpc => hoverlays.peek hmemory hi hpc, ?_⟩
  intro hq
  have hboth : (q ++ p.drop q.length).length ≤ 3584 := by
    rw [List.length_append, List.length_drop]
    omega
  have hsecond := loadProgram_loadProgram hload hq
  rw [loadProgram_of_le m hboth] at hsecond
  refine ⟨_, hsecond, overlays_writeAll m hboth, ?_⟩
  intro hle
  rw [List.drop_of_length_le hle, List.append_nil, loadProgram_of_le m hq]

/-- An image that fills program memory is fetched up to its last word, and a byte that is loaded
    over it changes its first word only. -/
theorem loadProgram_overlays_full :
    let p : List UInt8 := List.replicate 3584 0xAB
    ∃ m' m'', (initial ⟨0, 0⟩).loadProgram p = .ok m' ∧ m'.loadProgram [0x12] = .ok m'' ∧
      ({ m' with pc := 0xFFE } : Machine).peek = 0xABAB ∧
      (∃ a : Fin 4096, a.val = 0x200 ∧ m''.memory.get a = 0x12) ∧
      ∃ a : Fin 4096, a.val = 0xFFF ∧ m''.memory.get a = 0xAB := by
  intro p
  have hlength : p.length = 3584 := List.length_replicate
  obtain ⟨m', hload, -, hpeek, hagain⟩ :=
    (loadProgram_overlays (initial ⟨0, 0⟩) p [0x12]).2 (Nat.le_of_eq hlength)
  obtain ⟨m'', hsecond, hboth, -⟩ := hagain (by decide)
  have hlast : ({ m' with pc := 0xFFE } : Machine).peek =
      256 * p[2 * 1791].toNat + p[2 * 1791 + 1].toNat :=
    hpeek { m' with pc := 0xFFE } rfl 1791 (by omega) rfl
  have hsize : ([0x12] ++ p.drop [(0x12 : UInt8)].length).length = 3584 := by
    rw [List.length_append, List.length_drop, hlength]
    rfl
  refine ⟨m', m'', hload, hsecond, ?_, ?_, ?_⟩
  · rw [hlast]
    simp only [p, List.getElem_replicate]
    rfl
  · exact hboth.loaded 0 (by rw [hsize]; decide)
  · obtain ⟨a, ha, hbyte⟩ := hboth.loaded 3583 (by rw [hsize]; decide)
    refine ⟨a, ha, hbyte.trans ?_⟩
    rw [List.getElem_append_right (by decide), List.getElem_drop, List.getElem_replicate]

end Machine

end Chip8
