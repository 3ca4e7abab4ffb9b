/-
Text of printable characters only: what is quoted, whatever it holds, and
integers. No control character is printable, so such text is on one line and
holds no control sequence.
-/
import StreamRequest.Proofs.Text.Decimal
import StreamRequest.Text.Quoted

namespace StreamRequest

/-! ## Sequences put together -/

theorem intercalate_cons {α : Type} (separator first : List α) (rest : List (List α)) :
    separator.intercalate (first :: rest) = first ++ rest.flatMap (separator ++ ·) := by
  induction rest generalizing first with
  | nil => rw [List.intercalate_singleton, List.flatMap_nil, List.append_nil]
  | cons second rest ih =>
    rw [List.intercalate_cons_cons, ih, List.flatMap_cons, List.append_assoc, List.append_assoc]

theorem mem_of_mem_intercalate {α : Type} {separator : List α} {parts : List (List α)} {x : α}
    (h : x ∈ separator.intercalate parts) : x ∈ separator ∨ ∃ part ∈ parts, x ∈ part := by
  cases parts with
  | nil => cases h
  | cons first rest =>
    rw [intercalate_cons, List.mem_append, List.mem_flatMap] at h
    rcases h with h | ⟨part, hp, h⟩
    · exact .inr ⟨first, List.mem_cons_self, h⟩
    · rcases List.mem_append.1 h with h | h
      · exact .inl h
      · exact .inr ⟨part, List.mem_cons_of_mem _ hp, h⟩

/-! ## Characters -/

namespace Printable

/-- Every character of a text can be shown as it is. -/
def All (text : List Char) : Prop :=
  ∀ c ∈ text, isPrintable c = true

instance (text : List Char) : Decidable (All text) :=
  decidable_of_iff (text.all isPrintable = true) List.all_eq_true

theorem All.append {s t : List Char} (hs : All s) (ht : All t) : All (s ++ t) := by
  intro c hc
  rcases List.mem_append.1 hc with h | h
  · exact hs c h
  · exact ht c h

theorem All.cons {c : Char} {text : List Char} (hc : isPrintable c = true) (h : All text) :
    All (c :: text) := by
  intro d hd
  rcases List.mem_cons.1 hd with rfl | hd
  · exact hc
  · exact h d hd

theorem All.intercalate {separator : List Char} {parts : List (List Char)} (hs : All separator)
    (h : ∀ part ∈ parts, All part) : All (separator.intercalate parts) := by
  intro c hc
  rcases mem_of_mem_intercalate hc with hc | ⟨part, hp, hc⟩
  · exact hs c hc
  · exact h part hp c hc

theorem All.not_mem {c : Char} {text : List Char} (h : All text) (hc : isPrintable c = false) :
    c ∉ text := by
  intro hm
  rw [h c hm] at hc
  exact Bool.noConfusion hc

/-- The control characters, line breaks and the start of a control sequence among them. -/
def IsControl (c : Char) : Prop :=
  c.toNat < 0x20 ∨ 0x7F ≤ c.toNat ∧ c.toNat < 0xA0

theorem covers_of_isControl {c : Char} (h : IsControl c) : unprintable.covers c.toNat = true := by
  refine (RangeTable.covers_iff unprintable_ascends _).2 ?_
  rcases h with h | h
  · exact ⟨(0x00, 0x1F), .head _, Nat.zero_le _, Nat.le_of_lt_succ h⟩
  · exact ⟨(0x7F, 0xA0), .tail _ (.head _), h.1, Nat.le_of_lt h.2⟩

theorem All.not_isControl {text : List Char} (h : All text) : ∀ c ∈ text, ¬IsControl c := by
  intro c hc hcontrol
  have hp := h c hc
  rw [isPrintable, covers_of_isControl hcontrol] at hp
  exact Bool.noConfusion hp

end Printable

open Printable

namespace Hexadecimal

theorem all_printable_fixed (width n : Nat) : All (fixed width n) := by
  induction width generalizing n with
  | zero =>
    intro c hc
    cases hc
  | succ width ih =>
    have digits : ∀ v < 16, isPrintable (Nat.digitChar v) = true := by decide
    have last : isPrintable (digit n) = true := digits (n % 16) (Nat.mod_lt n (by decide))
    refine (ih (n / 16)).append fun c hc => ?_
    rw [List.mem_singleton.1 hc]
    exact last

end Hexadecimal

namespace Decimal

theorem isPrintable_of_isDigit {c : Char} (h : c.isDigit = true) : isPrintable c = true := by
  have digits : ∀ n < 0x3A, 0x30 ≤ n → isPrintable (.ofNat n) = true := by decide
  obtain ⟨h₁, h₂⟩ := toNat_of_isDigit h
  have := digits c.toNat (by omega) h₁
  rwa [Char.ofNat_toNat] at this

theorem all_printable_ofInt (i : Int) : All (ofInt i) := by
  intro c hc
  rcases mem_ofInt hc with rfl | hd
  · decide
  · exact isPrintable_of_isDigit hd

theorem all_printable_ofNat (n : Nat) : All (ofNat n) := fun _ hc =>
  isPrintable_of_isDigit (isDigit_of_mem_ofNat hc)

end Decimal

namespace Quoted

theorem isPrintable_mark (text : List Char) : isPrintable (mark text) = true := by
  unfold mark
  split <;> decide

theorem all_printable_escapeNumber (n : Nat) : All (escapeNumber n) := by
  have lead : ∀ m : Char, isPrintable m = true → ∀ width, All ('\\' :: m :: Hexadecimal.fixed width n) :=
    fun m hm width =>
      All.cons (by decide) (.cons hm (Hexadecimal.all_printable_fixed width n))
  unfold escapeNumber
  split
  · exact lead 'x' (by decide) 2
  split
  · exact lead 'u' (by decide) 4
  · exact lead 'U' (by decide) 8

/-- Whatever a character is, printable characters stand for it between marks. -/
theorem all_printable_escapeChar {m : Char} (hm : isPrintable m = true) (c : Char) :
    All (escapeChar m c) := by
  have hb : isPrintable '\\' = true := by decide
  have pair : ∀ d, isPrintable d = true → All ['\\', d] := fun d hd =>
    .cons hb (.cons hd fun _ h => nomatch h)
  unfold escapeChar
  split
  · rename_i h
    rcases h with rfl | rfl
    · exact pair c hm
    · exact pair '\\' hb
  split
  · exact pair 't' (by decide)
  split
  · exact pair 'n' (by decide)
  split
  · exact pair 'r' (by decide)
  split
  · rename_i h
    exact .cons h fun _ h => nomatch h
  · exact all_printable_escapeNumber c.toNat

theorem all_printable_quoteChars (text : List Char) : All (quoteChars text) := by
  have hm := isPrintable_mark text
  have inner : All (text.flatMap (escapeChar (mark text))) := by
    intro c hc
    obtain ⟨d, -, hd⟩ := List.mem_flatMap.1 hc
    exact all_printable_escapeChar hm d c hd
  exact (All.cons hm inner).append (.cons hm fun _ h => nomatch h)

end Quoted

/-! ## Strings -/

theorem Printable.All.toList_append {s t : String} (hs : All s.toList) (ht : All t.toList) :
    All (s ++ t).toList := by
  rw [String.toList_append]
  exact hs.append ht

theorem all_printable_intText (i : Int) : All (Decimal.intText i).toList := by
  rw [Decimal.intText, String.toList_ofList]
  exact Decimal.all_printable_ofInt i

theorem all_printable_natText (n : Nat) : All (Decimal.natText n).toList := by
  rw [Decimal.natText, String.toList_ofList]
  exact Decimal.all_printable_ofNat n

theorem all_printable_quote (text : String) : All (Quoted.quote text).toList := by
  rw [Quoted.quote, String.toList_ofList]
  exact Quoted.all_printable_quoteChars text.toList

end StreamRequest
