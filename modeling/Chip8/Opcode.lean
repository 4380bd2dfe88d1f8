/-
  Chip8/Opcode.lean
  =================
  **The fields of an instruction word** — a word of any size and sign is read
  through its low sixteen bits in two's complement: a family nibble, two
  register nibbles, and the three constants that overlap them.

  `Opcode.known` says which words name an instruction.  Family 0 looks at the
  whole word and not only at its low sixteen bits.
-/
namespace Chip8

/-- A word and its fields. -/
structure Opcode where
  raw : Int
  /-- The first nibble, which selects the kind of instruction. -/
  family : Nat
  x : Nat
  y : Nat
  n : Nat
  nn : Nat
  nnn : Nat
  deriving DecidableEq, Repr

namespace Opcode

/-- The low sixteen bits of a word, as a number. -/
def low16 (word : Int) : Nat := (word % 65536).toNat

/-- Split a word into its fields. -/
def ofWord (word : Int) : Opcode :=
  let w := low16 word
  { raw := word
    family := w / 4096
    x := w / 256 % 16
    y := w / 16 % 16
    n := w % 16
    nn := w % 256
    nnn := w % 4096 }

/-- The last nibbles with which an arithmetic word is an instruction. -/
def arithmeticForms : List Nat := [0, 1, 2, 3, 4, 5, 6, 7, 0xE]

/-- The last bytes with which a key word is an instruction. -/
def keyForms : List Nat := [0x9E, 0xA1]

/-- The last bytes with which a word of the last family is an instruction. -/
def miscForms : List Nat := [0x07, 0x0A, 0x15, 0x18, 0x1E, 0x29, 0x33, 0x55, 0x65]

/-- Whether a word names an instruction. -/
def known (word : Int) : Bool :=
  let o := ofWord word
  match o.family with
  | 0x0 => word == 0x00E0 || word == 0x00EE
  | 0x8 => arithmeticForms.contains o.n
  | 0xE => keyForms.contains o.nn
  | 0xF => miscForms.contains o.nn
  | _ => true

/-! ### Bounds of the fields -/

theorem low16_lt (word : Int) : low16 word < 65536 := by
  unfold low16
  omega

theorem family_lt (word : Int) : (ofWord word).family < 16 := by
  have := low16_lt word
  simp only [ofWord]
  omega

theorem nnn_lt (word : Int) : (ofWord word).nnn < 4096 := by
  simp only [ofWord]
  omega

end Opcode

end Chip8
