/-
  Chip8/Keypad.lean
  =================
  **The keypad** — sixteen keys, each up or down, and the keyboard keys that
  stand for them.
-/
import Chip8.Error

namespace Chip8

/-- For each key, whether it is held down. -/
abbrev Keypad := Vector Bool 16

namespace Keypad

/-- No key is down. -/
def released : Keypad := Vector.replicate 16 false

/-- Some key is down. -/
def anyDown (k : Keypad) : Bool := k.any id

/-- The least key that is down. -/
def lowest? (k : Keypad) : Option (Fin 16) := (List.finRange 16).find? fun i => k[i.val]

/-- Mark a key as held or released; keys outside the keypad are refused. -/
def set? (k : Keypad) (key : Int) (down : Bool) : Except Error Keypad :=
  if 0 ≤ key ∧ key < 16 then .ok (k.setIfInBounds key.toNat down) else .error (.noSuchKey key)

/-- The keyboard keys of the keypad: four rows of four on the left of the
    keyboard, in the order of the keys they stand for. -/
def keyboard : List String :=
  ["1", "2", "3", "4", "q", "w", "e", "r", "a", "s", "d", "f", "z", "x", "c", "v"]

/-- The key that a keyboard key stands for. -/
def ofKeyboard? (name : String) : Option Nat := keyboard.findIdx? (· == name)

theorem lowest?_eq_none_iff (k : Keypad) : k.lowest? = none ↔ k.anyDown = false := by
  simp only [lowest?, anyDown, List.find?_eq_none, Vector.any_eq_false]
  constructor
  · intro h i hi
    exact h ⟨i, hi⟩ (List.mem_finRange _)
  · intro h i _
    exact h i.val i.isLt

end Keypad

end Chip8
