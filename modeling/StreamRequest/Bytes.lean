/-
Sequences of bytes, the form in which requests arrive and replies leave, and
the one way the library takes them apart: at the first byte of a given kind.
-/
namespace StreamRequest

/-- Bytes in the order of the wire. -/
abbrev Bytes := List UInt8

namespace Bytes

/-- The bytes before the first `mark`, and those after it if there is a `mark`. -/
def splitFirst (mark : UInt8) : Bytes → Bytes × Option Bytes
  | [] => ([], none)
  | b :: rest =>
    if b = mark then ([], some rest)
    else
      let (before, after) := splitFirst mark rest
      (b :: before, after)

theorem splitFirst_of_not_mem {mark : UInt8} {data : Bytes} (h : mark ∉ data) :
    splitFirst mark data = (data, none) := by
  induction data with
  | nil => rfl
  | cons b rest ih =>
    have hb : b ≠ mark := fun e => h (e ▸ List.mem_cons_self)
    simp [splitFirst, hb, ih fun m => h (List.mem_cons_of_mem _ m)]

theorem splitFirst_append {mark : UInt8} {before : Bytes} (h : mark ∉ before) (after : Bytes) :
    splitFirst mark (before ++ mark :: after) = (before, some after) := by
  induction before with
  | nil => simp [splitFirst]
  | cons b rest ih =>
    have hb : b ≠ mark := fun e => h (e ▸ List.mem_cons_self)
    simp [splitFirst, hb, ih fun m => h (List.mem_cons_of_mem _ m)]

end Bytes

end StreamRequest
