/-
Sets of characters as tables: closed ranges of character numbers in ascending
order, none touching the next.
-/
namespace StreamRequest

/-- Closed ranges of numbers, in ascending order. -/
abbrev RangeTable := List (Nat × Nat)

namespace RangeTable

/-- Whether a number lies in one of the ranges; the search ends at the first range beyond it. -/
def covers : RangeTable → Nat → Bool
  | [], _ => false
  | (first, last) :: rest, n =>
    if n < first then false
    else if n ≤ last then true
    else covers rest n

/-- Whether the ranges are well formed, ascending and separate, from `least` on. -/
def ascendsFrom : Nat → RangeTable → Bool
  | _, [] => true
  | least, (first, last) :: rest =>
    least ≤ first && first ≤ last && ascendsFrom (last + 2) rest

/-- Every range of an ascending table begins at or after its bound. -/
theorem le_of_ascendsFrom {least : Nat} {table : RangeTable} (h : ascendsFrom least table = true) :
    ∀ r ∈ table, least ≤ r.1 := by
  induction table generalizing least with
  | nil => simp
  | cons s rest ih =>
    intro r hr
    simp only [ascendsFrom, Bool.and_eq_true, decide_eq_true_eq] at h
    rcases List.mem_cons.1 hr with rfl | hr
    · exact h.1.1
    · have := ih h.2 r hr
      omega

/-- In an ascending table the search finds exactly the members of the ranges. -/
theorem covers_iff {least : Nat} {table : RangeTable} (h : ascendsFrom least table = true)
    (n : Nat) : table.covers n = true ↔ ∃ r ∈ table, r.1 ≤ n ∧ n ≤ r.2 := by
  induction table generalizing least with
  | nil => simp [covers]
  | cons r rest ih =>
    simp only [ascendsFrom, Bool.and_eq_true, decide_eq_true_eq] at h
    have beyond := le_of_ascendsFrom h.2
    simp only [covers, List.mem_cons, or_and_right, exists_or, exists_eq_left]
    split
    · refine ⟨fun e => by simp at e, ?_⟩
      rintro (hr | ⟨s, hs, hn⟩)
      · omega
      · have := beyond s hs
        omega
    · split
      · simp only [true_iff]
        left
        omega
      · rw [ih h.2]
        refine ⟨Or.inr, ?_⟩
        rintro (hr | hr)
        · omega
        · exact hr

end RangeTable

end StreamRequest
