/-
  Chip8/Text/Similar.lean
  =======================
  **Similar words** — two words are as similar as the share of their characters
  that lie in common blocks: the longest block that both have, and the blocks
  that are found in the same way before and after it.
-/
namespace Chip8.Text.Similar

/-- The length of the longest beginning that two texts share. -/
def common : List Char → List Char → Nat
  | a :: as, b :: bs => if a = b then common as bs + 1 else 0
  | _, _ => 0

/-- A block that two texts share: where it starts in each, and its length. -/
structure Block where
  left : Nat
  right : Nat
  size : Nat
  deriving DecidableEq, Repr

/-- The longest block that two texts share; of several, the one that starts first
    in the left text and then in the right one. -/
def longest (as bs : List Char) : Block :=
  let blocks := (List.range as.length).flatMap fun i => (List.range bs.length).map fun j =>
    (⟨i, j, common (as.drop i) (bs.drop j)⟩ : Block)
  blocks.foldl (fun best b => if best.size < b.size then b else best) ⟨0, 0, 0⟩

/-- The number of characters in common blocks.  Fuel bounds the number of blocks
    that lie one beside the other. -/
def matching : (fuel : Nat) → List Char → List Char → Nat
  | 0, _, _ => 0
  | fuel + 1, as, bs =>
    let b := longest as bs
    if b.size = 0 then 0
    else matching fuel (as.take b.left) (bs.take b.right) + b.size +
      matching fuel (as.drop (b.left + b.size)) (bs.drop (b.right + b.size))

/-- The characters in common blocks, of all characters of two words. -/
def share (a b : String) : Nat × Nat :=
  (2 * matching a.length a.toList b.toList, a.length + b.length)

/-- At least three fifths of the characters lie in common blocks.  The shorter word is
    looked at first: common blocks have no more characters than it has. -/
def isClose (a b : String) : Bool :=
  3 * (a.length + b.length) ≤ 10 * min a.length b.length &&
    3 * (share a b).2 ≤ 5 * (share a b).1

/-- One share is larger than another; of equal shares, the later word comes first. -/
def precedes (word a b : String) : Bool :=
  let (m, n) := share a word
  let (m', n') := share b word
  m' * n < m * n' || (m' * n == m * n' && b ≤ a)

/-- The words that are close to a word, the closest first and no more than three. -/
def closest (word : String) (words : List String) : List String :=
  ((words.filter fun w => isClose w word).mergeSort (precedes word)).take 3

example : isClose "max_cycles" "cycles" = true := by decide +kernel
example : isClose "color_scheme" "color" = false := by decide +kernel

end Chip8.Text.Similar
