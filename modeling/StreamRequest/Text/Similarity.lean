/-
How alike two words are, for a word that may be a slip of another.

The longest block that stands in both words is counted, then the longest block
that stands in what is before it in both, then in what is behind it, and so on
with the parts. The words are alike if at least three fifths of their letters
belong to such blocks. The blocks are found in the first word before the
second: which of several longest blocks is taken decides what is left over.
-/
import StreamRequest.Text.Utf8

namespace StreamRequest.Similarity

variable {α : Type} [DecidableEq α]

/-! ## Blocks -/

/-- How many items two sequences have in common where they begin. -/
def sharedLength : List α → List α → Nat
  | x :: xs, y :: ys => if x = y then sharedLength xs ys + 1 else 0
  | _, _ => 0

/-- A block that stands in two sequences: where it begins in either, and how long it is. -/
structure Block where
  first : Nat
  second : Nat
  length : Nat
  deriving DecidableEq, Repr

/-- The longer of two blocks, the left one if they are equally long. -/
def Block.longer (a b : Block) : Block :=
  if a.length < b.length then b else a

/-- The longest of a block and those that begin with `xs`, which stands at `first`, and in `ys`,
which stands at `second`. -/
def longestAt (first : Nat) (xs : List α) (best : Block) (second : Nat) : List α → Block
  | [] => best
  | y :: ys =>
    longestAt first xs (best.longer ⟨first, second, sharedLength xs (y :: ys)⟩) (second + 1) ys

/-- The longest of a block and those in `ys` and in a sequence that stands at `first`. -/
def longestFrom (ys : List α) (best : Block) (first : Nat) : List α → Block
  | [] => best
  | x :: xs => longestFrom ys (longestAt first (x :: xs) best 0 ys) (first + 1) xs

/-- The longest block of two sequences. Of several it is the one that begins earliest in the first
sequence, and then in the second. -/
def longest (xs ys : List α) : Block :=
  longestFrom ys ⟨0, 0, 0⟩ 0 xs

/-! ## Likeness -/

/-- How many items belong to blocks, where blocks are taken out `fuel` deep. -/
def matchedWithin : Nat → List α → List α → Nat
  | 0, _, _ => 0
  | fuel + 1, xs, ys =>
    let block := longest xs ys
    if block.length = 0 then 0
    else
      matchedWithin fuel (xs.take block.first) (ys.take block.second) + block.length +
        matchedWithin fuel (xs.drop (block.first + block.length))
          (ys.drop (block.second + block.length))

/-- How many items of either sequence belong to blocks of both. What is beside a block is shorter
than the sequence, so no more steps are needed than it has items. -/
def matched (xs ys : List α) : Nat :=
  matchedWithin xs.length xs ys

/-- Whether at least three fifths of two sequences belong to blocks of both. -/
def alike (xs ys : List α) : Bool :=
  3 * (xs.length + ys.length) ≤ 10 * matched xs ys

/-- The names, of those given, that a word may be a slip of. A stray byte of the word is a letter
that no name has. -/
def near (names : List String) (word : Bytes) : List String :=
  let letters := Utf8.pieces word
  names.filter fun name => alike (name.toList.map .char) letters

end StreamRequest.Similarity
