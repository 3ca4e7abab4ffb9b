/-
Cutting a sequence short: to a number of elements, or from its end where the
number is negative.
-/
namespace StreamRequest.Cut

/-- How many elements a cut keeps of `length`: `bound`, or all but `-bound` of them. -/
def kept (bound : Int) (length : Nat) : Nat :=
  if 0 ≤ bound then bound.toNat else (length + bound).toNat

/-- The elements that a cut keeps. -/
def keep (bound : Int) (xs : List α) : List α :=
  xs.take (kept bound xs.length)

theorem keep_natCast (n : Nat) (xs : List α) : keep n xs = xs.take n := by
  simp [keep, kept]

/-- What follows a text that was cut. -/
def ellipsis : String := "..."

/-- The text if it has at most `most` characters, else its beginning and three dots, which
together make up `most` characters if that is three or more. -/
def shorten (most : Int) (text : String) : String :=
  let chars := text.toList
  if (chars.length : Int) ≤ most then text
  else .ofList (keep (most - 3) chars) ++ ellipsis

end StreamRequest.Cut
