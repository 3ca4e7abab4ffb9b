/-
Which texts can be written, and where the others fail.

A text begins with characters and goes on, if at all, with a surrogate
(`exists_chars_append`), and surrogates go on until something else comes
(`exists_row_append`). So writing a text has two outcomes: the text is a string
(`toText_eq_ok_iff`), or its first row of surrogates is reported as it stands
(`toText_eq_error_iff`).
-/
import StreamRequest.Proofs.Results
import StreamRequest.Text.CodeText

namespace StreamRequest

/-- `run` tells where the first surrogates of a text stand: behind characters only, and as many as
there are in a row. -/
def Surrogates.FirstIn (run : Surrogates) (text : CodeText) : Prop :=
  ∃ (before : List Char) (row : List (Fin 0x800)) (after : CodeText),
    text = before.map .char ++ (row.map .surrogate ++ after) ∧
      (∀ index, after.head? ≠ some (.surrogate index)) ∧
      row.head? = some run.first ∧ before.length = run.start ∧ row.length = run.length

namespace CodeText

/-! ## Strings -/

@[simp] theorem char_mem_ofText {c : Char} {text : String} :
    CodePoint.char c ∈ ofText text ↔ c ∈ text.toList := by
  simp [ofText]

@[simp] theorem surrogate_not_mem_ofText {index : Fin 0x800} {text : String} :
    CodePoint.surrogate index ∉ ofText text := by
  simp [ofText]

@[simp] theorem chars_map_char (text : List Char) : chars (text.map .char) = text := by
  simp [chars, List.filterMap_map, Function.comp_def, CodePoint.char?]

theorem ofText_ofList (text : List Char) : ofText (.ofList text) = text.map .char := by
  simp [ofText]

theorem ofText_append (s t : String) : ofText (s ++ t) = ofText s ++ ofText t := by
  simp [ofText]

theorem map_char_injective {s t : List Char} (h : s.map CodePoint.char = t.map CodePoint.char) :
    s = t := by
  rw [← chars_map_char s, h, chars_map_char]

/-! ## The first surrogates -/

theorem exists_chars_append (text : CodeText) :
    ∃ (before : List Char) (rest : CodeText), text = before.map .char ++ rest ∧
      (rest = [] ∨ ∃ index more, rest = .surrogate index :: more) := by
  induction text with
  | nil => exact ⟨[], [], rfl, .inl rfl⟩
  | cons point rest ih =>
    cases point with
    | surrogate index => exact ⟨[], _, rfl, .inr ⟨index, rest, rfl⟩⟩
    | char c =>
      obtain ⟨before, more, rfl, h⟩ := ih
      exact ⟨c :: before, more, rfl, h⟩

theorem exists_row_append (text : CodeText) :
    ∃ (row : List (Fin 0x800)) (after : CodeText), text = row.map .surrogate ++ after ∧
      (∀ index, after.head? ≠ some (.surrogate index)) ∧
      (text.takeWhile fun point => point.char?.isNone).length = row.length := by
  induction text with
  | nil => exact ⟨[], [], rfl, by simp, rfl⟩
  | cons point rest ih =>
    cases point with
    | char c => exact ⟨[], .char c :: rest, rfl, by simp, rfl⟩
    | surrogate index =>
      obtain ⟨row, after, h, ha, hl⟩ := ih
      exact ⟨index :: row, after, by rw [h]; rfl, ha, congrArg (· + 1) hl⟩

theorem surrogatesFrom_append (position : Nat) (before : List Char) (rest : CodeText) :
    surrogatesFrom position (before.map .char ++ rest) =
      surrogatesFrom (position + before.length) rest := by
  induction before generalizing position with
  | nil => rfl
  | cons c before ih =>
    rw [List.map_cons, List.cons_append, surrogatesFrom, ih, List.length_cons]
    congr 1
    omega

theorem surrogatesFrom_map_char (position : Nat) (text : List Char) :
    surrogatesFrom position (text.map .char) = none := by
  have h := surrogatesFrom_append position text []
  rwa [List.append_nil] at h

@[simp] theorem toText_ofText (text : String) : toText (ofText text) = .ok text := by
  rw [toText, ofText, surrogatesFrom_map_char]
  simp

theorem exists_toText_eq_error (before : List Char) (index : Fin 0x800) (more : CodeText) :
    ∃ run : Surrogates, run.FirstIn (before.map .char ++ .surrogate index :: more) ∧
      toText (before.map .char ++ .surrogate index :: more) = .error run := by
  obtain ⟨row, after, hm, ha, hl⟩ := exists_row_append more
  refine ⟨⟨index, before.length, row.length + 1⟩,
    ⟨before, index :: row, after, by rw [hm]; rfl, ha, rfl, rfl, rfl⟩, ?_⟩
  rw [toText, surrogatesFrom_append, surrogatesFrom, hl, Nat.zero_add]

theorem toText_of_firstIn {run : Surrogates} {text : CodeText} (h : run.FirstIn text) :
    toText text = .error run := by
  obtain ⟨before, row, after, rfl, ha, hf, hs, hl⟩ := h
  obtain ⟨row, rfl⟩ := List.head?_eq_some_iff.1 hf
  have htake : ((row.map CodePoint.surrogate ++ after).takeWhile
      fun point => point.char?.isNone) = row.map .surrogate := by
    rw [List.takeWhile_append_of_pos (by simp [CodePoint.char?])]
    cases after with
    | nil => simp
    | cons point after =>
      cases point with
      | char c => simp [CodePoint.char?]
      | surrogate index => exact absurd rfl (ha index)
  have hlength : row.length + 1 = run.length := hl
  rw [toText, surrogatesFrom_append, List.map_cons, List.cons_append, surrogatesFrom, htake,
    List.length_map, hlength, Nat.zero_add, hs]

/-! ## Writing -/

theorem toText_eq_ok_iff {text : CodeText} {s : String} : toText text = .ok s ↔ text = ofText s := by
  constructor
  · intro h
    obtain ⟨before, rest, rfl, rfl | ⟨index, more, rfl⟩⟩ := exists_chars_append text
    · rw [List.append_nil, ← ofText_ofList, toText_ofText] at h
      rw [List.append_nil, ← ofText_ofList, Except.ok.inj h]
    · obtain ⟨run, -, he⟩ := exists_toText_eq_error before index more
      rw [he] at h
      cases h
  · rintro rfl
    exact toText_ofText s

theorem toText_eq_error_iff {text : CodeText} {run : Surrogates} :
    toText text = .error run ↔ run.FirstIn text := by
  refine ⟨fun h => ?_, toText_of_firstIn⟩
  obtain ⟨before, rest, rfl, rfl | ⟨index, more, rfl⟩⟩ := exists_chars_append text
  · rw [List.append_nil, ← ofText_ofList, toText_ofText] at h
    cases h
  · obtain ⟨found, hf, he⟩ := exists_toText_eq_error before index more
    rw [he] at h
    rwa [← Except.error.inj h]

/-- What is put behind a text does not change which surrogates are the first. -/
theorem firstIn_append_ofText {run : Surrogates} {text : CodeText} (h : run.FirstIn text)
    (s : String) : run.FirstIn (text ++ ofText s) := by
  obtain ⟨before, row, after, rfl, ha, hrow⟩ := h
  refine ⟨before, row, after ++ ofText s, by simp only [List.append_assoc], ?_, hrow⟩
  intro index hi
  cases after with
  | cons point after => exact ha index hi
  | nil => exact surrogate_not_mem_ofText (List.mem_of_mem_head? hi)

theorem toText_append_ofText (text : CodeText) (s : String) :
    toText (text ++ ofText s) = (toText text).map (· ++ s) := by
  cases h : toText text with
  | error run => exact toText_of_firstIn (firstIn_append_ofText (toText_eq_error_iff.1 h) s)
  | ok t =>
    rw [toText_eq_ok_iff.1 h, ← ofText_append, toText_ofText]
    rfl

/-- The texts that are strings are those without a surrogate. -/
theorem exists_eq_ofText_iff {text : CodeText} :
    (∃ s, text = ofText s) ↔ ∀ index, CodePoint.surrogate index ∉ text := by
  constructor
  · rintro ⟨s, rfl⟩ index
    exact surrogate_not_mem_ofText
  · intro h
    obtain ⟨before, rest, rfl, rfl | ⟨index, more, rfl⟩⟩ := exists_chars_append text
    · exact ⟨.ofList before, by rw [List.append_nil, ofText_ofList]⟩
    · exact absurd (List.mem_append_right _ List.mem_cons_self) (h index)

theorem exists_firstIn_iff {text : CodeText} :
    (∃ run : Surrogates, run.FirstIn text) ↔ ∃ index, CodePoint.surrogate index ∈ text := by
  have h : (∃ run : Surrogates, run.FirstIn text) ↔ ¬∃ s, text = ofText s := by
    simp only [← toText_eq_error_iff, ← toText_eq_ok_iff]
    cases toText text <;> simp
  rw [h, exists_eq_ofText_iff]
  simp

theorem encode_eq_ok_iff {text : CodeText} {data : Bytes} :
    encode text = .ok data ↔ ∃ s, text = ofText s ∧ Utf8.ofText s = data := by
  simp only [encode, Results.map_eq_ok_iff, toText_eq_ok_iff]

theorem encode_eq_error_iff {text : CodeText} {run : Surrogates} :
    encode text = .error run ↔ run.FirstIn text := by
  rw [← toText_eq_error_iff]
  exact Results.map_eq_error_iff

end CodeText

end StreamRequest
