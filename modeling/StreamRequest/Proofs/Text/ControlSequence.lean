/-
What is taken out of a text with its control sequences, and what stays.

No sequence reaches across an item that neither begins one nor stands in one, so the
text before it and the text behind it are stripped apart (`stripFrom_append`). A line
feed is such an item. So a line is stripped without its end (`strip_append_lineFeed`),
and no line feed is taken out (`count_strip`).
-/
import StreamRequest.Text.ControlSequence

namespace StreamRequest.ControlSequence

variable {α : Type} {char? : α → Option Char}

/-- The item begins no sequence and stands in none. -/
structure Outside (char? : α → Option Char) (x : α) : Prop where
  ne_escapeMark : char? x ≠ some escapeMark
  not_parameter : (char? x).any isParameter = false
  not_intermediate : (char? x).any isIntermediate = false
  not_final : (char? x).any isFinal = false

theorem outside_lineFeed : Outside some '\n' :=
  ⟨by decide, rfl, rfl, rfl⟩

/-- The bracket behind an escape character might end a sequence as well. -/
theorem Outside.ne_bracket {x : α} (hx : Outside char? x) : char? x ≠ some '[' := by
  intro e
  have hfinal := hx.not_final
  rw [e] at hfinal
  revert hfinal
  decide

/-! ## Sequences -/

/-- Characters of a class are counted no further than to an item that is not in it. -/
theorem takeWhile_append_of_any {p : Char → Bool} {x : α} (hx : (char? x).any p = false)
    (s rest : List α) :
    (s ++ x :: rest).takeWhile (fun y => (char? y).any p) =
      s.takeWhile fun y => (char? y).any p := by
  induction s with
  | nil => simp [hx]
  | cons y s ih => simp [List.takeWhile_cons, ih]

theorem dropWhile_append_of_any {p : Char → Bool} {x : α} (hx : (char? x).any p = false)
    (s rest : List α) :
    (s ++ x :: rest).dropWhile (fun y => (char? y).any p) =
      s.dropWhile (fun y => (char? y).any p) ++ x :: rest := by
  induction s with
  | nil => simp [hx]
  | cons y s ih =>
    rw [List.cons_append, List.dropWhile_cons, List.dropWhile_cons, ih]
    split <;> rfl

theorem tailLength?_append {x : α} (hx : Outside char? x) (s rest : List α) :
    tailLength? char? (s ++ x :: rest) = tailLength? char? s := by
  simp only [tailLength?, takeWhile_append_of_any hx.not_parameter,
    dropWhile_append_of_any hx.not_parameter, takeWhile_append_of_any hx.not_intermediate,
    dropWhile_append_of_any hx.not_intermediate]
  -- What ends the sequence is the first item left, and this one does not.
  cases List.dropWhile (fun y => (char? y).any isIntermediate)
      (List.dropWhile (fun y => (char? y).any isParameter) s) with
  | nil => simp [hx.not_final]
  | cons y more => rfl

theorem tailLength?_le {text : List α} {length : Nat} (h : tailLength? char? text = some length) :
    length ≤ text.length := by
  have split : ∀ (p : α → Bool) (s : List α),
      s.length = (s.takeWhile p).length + (s.dropWhile p).length := by
    intro p s
    rw [← List.length_append, List.takeWhile_append_dropWhile]
  simp only [tailLength?] at h
  rw [split (fun y => (char? y).any isParameter) text,
    split (fun y => (char? y).any isIntermediate) (text.dropWhile _)]
  split at h
  · cases h
  · rename_i y more hrest
    split at h
    · rw [hrest, List.length_cons, ← Option.some.inj h]
      omega
    · cases h

theorem sequenceLength_append {x : α} (hx : Outside char? x) (s rest : List α) :
    sequenceLength char? (s ++ x :: rest) = sequenceLength char? s := by
  cases s with
  | nil => cases rest <;> simp [sequenceLength, hx.ne_escapeMark]
  | cons y s =>
    cases s with
    | nil => simp [sequenceLength, hx.ne_bracket]
    | cons z s => simp only [List.cons_append, sequenceLength, tailLength?_append hx]

theorem sequenceLength_le (text : List α) : sequenceLength char? text ≤ text.length := by
  unfold sequenceLength
  split
  · split
    · split
      · rename_i length h
        exact Nat.add_le_add_right (tailLength?_le h) 2
      · exact Nat.zero_le _
    · exact Nat.zero_le _
  · exact Nat.zero_le _

/-! ## Stripping -/

/-- **No sequence reaches across such an item**: the items on either side of it are stripped
apart. -/
theorem stripFrom_append {x : α} (hx : Outside char? x) {skip : Nat} {s : List α}
    (h : skip ≤ s.length) (rest : List α) :
    stripFrom char? skip (s ++ x :: rest) =
      stripFrom char? skip s ++ x :: stripFrom char? 0 rest := by
  induction s generalizing skip with
  | nil =>
    obtain rfl := Nat.le_zero.1 h
    have hlength : sequenceLength char? (x :: rest) = 0 := sequenceLength_append hx [] rest
    simp [stripFrom, hlength]
  | cons y s ih =>
    cases skip with
    | succ more => exact ih (Nat.le_of_succ_le_succ h)
    | zero =>
      have hlength := sequenceLength_append hx (y :: s) rest
      have hle : sequenceLength char? (y :: s) ≤ (y :: s).length := sequenceLength_le _
      simp only [List.cons_append, stripFrom] at hlength ⊢
      rw [hlength]
      cases hs : sequenceLength char? (y :: s) with
      | zero => exact congrArg (y :: ·) (ih (Nat.zero_le _))
      | succ more =>
        rw [hs] at hle
        exact ih (Nat.le_of_succ_le_succ hle)

theorem stripFrom_sublist (skip : Nat) (text : List α) :
    (stripFrom char? skip text).Sublist text := by
  induction text generalizing skip with
  | nil => exact .slnil
  | cons x rest ih =>
    cases skip with
    | succ more => exact (ih more).cons x
    | zero =>
      simp only [stripFrom]
      split
      · exact (ih _).cons x
      · exact (ih 0).cons_cons x

/-- Such a character stays as often as it was there. The induction is from one of them to the
next. -/
theorem count_stripFrom {c : Char} (hc : Outside some c) (text : List Char) :
    (stripFrom some 0 text).count c = text.count c := by
  have none_left : ∀ {s : List Char}, c ∉ s → (stripFrom some 0 s).count c = 0 :=
    fun hs => List.count_eq_zero.2 fun hm => hs ((stripFrom_sublist 0 _).subset hm)
  by_cases h : c ∈ text
  · obtain ⟨before, after, htext, hbefore⟩ := List.eq_append_cons_of_mem h
    have hlt : after.length < text.length := by
      rw [htext, List.length_append, List.length_cons]
      omega
    have ih := count_stripFrom hc after
    rw [htext, stripFrom_append hc (Nat.zero_le _), List.count_append, List.count_append,
      List.count_cons_self, List.count_cons_self, ih, none_left hbefore,
      List.count_eq_zero.2 hbefore]
  · rw [none_left h, List.count_eq_zero.2 h]
termination_by text.length

/-! ## Strings -/

@[simp] theorem toList_strip (text : String) : (strip text).toList = stripFrom some 0 text.toList := by
  rw [strip, String.toList_ofList]

theorem strip_append_lineFeed (text : String) : strip (text ++ "\n") = strip text ++ "\n" := by
  refine String.toList_inj.1 ?_
  rw [toList_strip, String.toList_append, String.toList_append, toList_strip]
  exact stripFrom_append outside_lineFeed (Nat.zero_le _) []

/-- No sequence begins in such a label, and what stands behind it is stripped by itself. -/
theorem strip_append {label : String} (h : escapeMark ∉ label.toList) (text : String) :
    strip (label ++ text) = label ++ strip text := by
  refine String.toList_inj.1 ?_
  rw [toList_strip, String.toList_append, String.toList_append, toList_strip]
  exact stripFrom_append_of_forall_ne some (fun x hx e => h (Option.some.inj e ▸ hx)) _

theorem count_strip (text : String) :
    (strip text).toList.count '\n' = text.toList.count '\n' := by
  rw [toList_strip, count_stripFrom outside_lineFeed]

end StreamRequest.ControlSequence
