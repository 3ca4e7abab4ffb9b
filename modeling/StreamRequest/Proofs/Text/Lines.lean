/-
The lines of an output, and the rows of text that it was put together from.

A line feed in an output is one in its text (`count_lineFeed_ofText`). So rows that
are printed one to a line are the lines of the output if there is no line feed in them
(`lines_printed`), and each line feed in them adds a line (`length_lines_printed`).
-/
import StreamRequest.Proofs.Text.Ascii

namespace StreamRequest.Bytes

def lineFeed : UInt8 := 0x0A

/-- A byte at the head of the first line. -/
def onFirstLine (b : UInt8) : List Bytes → List Bytes
  | [] => [[b]]
  | line :: rest => (b :: line) :: rest

/-- The lines of an output. A line feed ends a line; what stands behind the last one is a line
without an end. -/
def lines : Bytes → List Bytes
  | [] => []
  | b :: rest => if b = lineFeed then [] :: lines rest else onFirstLine b (lines rest)

/-! ## Lines -/

theorem length_onFirstLine (b : UInt8) {ls : List Bytes} (h : ls ≠ []) :
    (onFirstLine b ls).length = ls.length := by
  cases ls with
  | nil => exact absurd rfl h
  | cons line rest => rfl

theorem lines_append_lineFeed {line : Bytes} (h : lineFeed ∉ line) (rest : Bytes) :
    lines (line ++ lineFeed :: rest) = line :: lines rest := by
  induction line with
  | nil => simp [lines]
  | cons b line ih =>
    have hb : b ≠ lineFeed := fun e => h (e ▸ List.mem_cons_self)
    simp [lines, hb, onFirstLine, ih fun m => h (List.mem_cons_of_mem _ m)]

theorem length_lines_append_lineFeed (data rest : Bytes) :
    (lines (data ++ lineFeed :: rest)).length = data.count lineFeed + 1 + (lines rest).length := by
  induction data with
  | nil => simp [lines, Nat.add_comm]
  | cons b data ih =>
    by_cases hb : b = lineFeed
    · simp [lines, hb, ih]
      omega
    · have hne : lines (data ++ lineFeed :: rest) ≠ [] := by
        intro e
        rw [e, List.length_nil] at ih
        omega
      simp [lines, hb, length_onFirstLine b hne, ih]

/-! ## Rows of text -/

theorem count_lineFeed_ofText (text : String) :
    (Utf8.ofText text).count lineFeed = text.toList.count '\n' :=
  Utf8.count_encode (c := '\n') (by decide) text.toList

theorem ofText_printed_cons (row : String) (rows : List String) :
    Utf8.ofText (String.join ((row :: rows).map (· ++ "\n"))) =
      Utf8.ofText row ++ lineFeed :: Utf8.ofText (String.join (rows.map (· ++ "\n"))) := by
  have hend : Utf8.ofText "\n" = [lineFeed] := by decide
  simp [String.join_cons, hend]

/-- **Rows without line feeds are the lines** of what is printed of them. -/
theorem lines_printed {rows : List String} (h : ∀ row ∈ rows, '\n' ∉ row.toList) :
    lines (Utf8.ofText (String.join (rows.map (· ++ "\n")))) = rows.map Utf8.ofText := by
  induction rows with
  | nil => rfl
  | cons row rows ih =>
    have hrow : lineFeed ∉ Utf8.ofText row := by
      rw [← List.count_eq_zero, count_lineFeed_ofText, List.count_eq_zero]
      exact h row List.mem_cons_self
    rw [ofText_printed_cons, lines_append_lineFeed hrow,
      ih fun other ho => h other (List.mem_cons_of_mem _ ho), List.map_cons]

theorem length_lines_printed (rows : List String) :
    (lines (Utf8.ofText (String.join (rows.map (· ++ "\n"))))).length =
      rows.length + (rows.flatMap String.toList).count '\n' := by
  induction rows with
  | nil => rfl
  | cons row rows ih =>
    rw [ofText_printed_cons, length_lines_append_lineFeed, count_lineFeed_ofText, ih,
      List.length_cons, List.flatMap_cons, List.count_append]
    omega

end StreamRequest.Bytes
