/-
  Chip8/CallStack.lean
  ====================
  **The call stack** — sixteen return addresses and a depth.

  The depth is a signed word of its own: nothing here stops it from leaving the
  sixteen entries.  An entry below the first counts from the end, once; a read
  that is still outside takes the nearest entry, a write outside is lost.  The
  checks that keep the depth between 0 and 16 belong to stepping.
-/
import Chip8.Cells

namespace Chip8

/-- Return addresses, oldest first, and how many are in use. -/
structure CallStack where
  entries : Vector UInt16 16
  depth : Int32
  deriving DecidableEq, Repr

namespace CallStack

/-- How many calls can be open at once. -/
def capacity : Nat := 16

/-- No open calls; the unused entries are zero. -/
def empty : CallStack := ⟨Vector.replicate 16 0, 0⟩

/-- The entry that an index names: an index below zero counts from the end. -/
def slot (i : Int) : Int := if i < 0 then i + capacity else i

/-- Read the entry nearest to an index. -/
def entryAt (s : CallStack) (i : Int) : UInt16 := Cells.read s.entries (slot i).toNat

/-- Replace an entry; an index that names none changes nothing. -/
def setEntry (entries : Vector UInt16 16) (i : Int) (a : UInt16) : Vector UInt16 16 :=
  if 0 ≤ slot i then Cells.write entries (slot i).toNat a else entries

/-- Open a call that returns to `a`. -/
def push (s : CallStack) (a : UInt16) : CallStack :=
  ⟨setEntry s.entries s.depth.toInt a, s.depth + 1⟩

/-- Close the innermost call: its return address, and the stack with that entry
    back at zero. -/
def pop (s : CallStack) : UInt16 × CallStack :=
  let depth := s.depth - 1
  (s.entryAt depth.toInt, ⟨setEntry s.entries depth.toInt 0, depth⟩)

end CallStack

end Chip8
