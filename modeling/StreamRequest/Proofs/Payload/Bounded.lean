/-
How long the line of a payload gets.

Between marks a character takes at most four times as many characters as it has bytes
(`length_escapeChar_le`), and in a listing a byte takes at most five. A cut leaves no
more bytes than its limit, so the line of what is left is bounded by the limit, however
long the payload is (`length_format_le`).
-/
import StreamRequest.Proofs.Payload.Line

namespace StreamRequest

theorem Utf8.length_encodeChar_pos (c : Char) : 0 < (encodeChar c).length := by
  obtain ⟨a, tail, h, -⟩ := readChar_encodeChar c []
  rw [h]
  exact Nat.succ_pos _

/-! ## Quoted texts -/

namespace Quoted

/-- The number of a character has more digits only where the character has more bytes. -/
theorem length_escapeNumber_le (c : Char) :
    (escapeNumber c.toNat).length ≤ 4 * (Utf8.encodeChar c).length := by
  unfold escapeNumber Utf8.encodeChar
  simp only [apply_ite List.length, List.length_cons, List.length_nil, Hexadecimal.length_fixed]
  repeat' split
  all_goals omega

theorem length_escapeChar_le {m : Char} (hm : IsMark m) (c : Char) :
    (escapeChar m c).length ≤ 4 * (Utf8.encodeChar c).length := by
  have hpos := Utf8.length_encodeChar_pos c
  rcases escapeChar_cases hm c with ⟨letter, h, -, -⟩ | ⟨h, -, -, -⟩ | h
  · rw [h, List.length_cons, List.length_singleton]
    omega
  · rw [h, List.length_singleton]
    omega
  · rw [h]
    exact length_escapeNumber_le c

theorem length_escaped_le {m : Char} (hm : IsMark m) (text : List Char) :
    (text.flatMap (escapeChar m)).length ≤ 4 * (Utf8.encode text).length := by
  induction text with
  | nil => exact Nat.le_refl 0
  | cons c text ih =>
    have hc := length_escapeChar_le hm c
    rw [List.flatMap_cons, Utf8.encode_cons, List.length_append, List.length_append]
    omega

theorem length_quote_le (text : String) :
    (quote text).length ≤ 4 * (Utf8.ofText text).length + 2 := by
  have h := length_escaped_le (isMark_mark text.toList) text.toList
  rw [quote, String.length_ofList, quoteChars, List.length_append, List.length_cons,
    List.length_singleton]
  exact Nat.add_le_add_right h 2

end Quoted

/-! ## Listings -/

namespace Payload

theorem length_digits_le (b : UInt8) : (Decimal.ofNat b.toNat).length ≤ 3 := by
  have hb : b.toNat < 10 ^ 3 := Nat.lt_trans b.toNat_lt (by decide)
  exact (Nat.length_toDigits_le_iff (by decide) (by decide)).2 hb

theorem length_others_le (data : Bytes) : (others data).length ≤ 5 * data.length + 1 := by
  induction data with
  | nil => exact Nat.le_refl 1
  | cons b data ih =>
    have hb := length_digits_le b
    have h := congrArg List.length (others_cons_append b data [])
    simp only [List.append_nil, List.length_cons, List.length_append] at h
    rw [h, List.length_cons]
    omega

/-- The brackets take as much as the comma and the space that the last byte does without. -/
theorem length_listing_le {data : Bytes} (h : data ≠ []) :
    (listing data).length ≤ 5 * data.length := by
  obtain ⟨b, rest, rfl⟩ := List.exists_cons_of_ne_nil h
  have hb := length_digits_le b
  have hrest := length_others_le rest
  rw [← String.length_toList, toList_listing, inner]
  simp only [List.length_cons, List.length_append]
  omega

/-! ## Views -/

/-- No more is shown than the limit has bytes, but for the dots behind a text. -/
theorem view_within (most : Nat) (data : Bytes) :
    (∃ shown, (Utf8.ofText shown).length ≤ most ∧
      (view (some most) data = .text shown ∨ view (some most) data = .text (shown ++ "..."))) ∨
    ∃ shown, shown.length ≤ most ∧ view (some most) data = .bytes shown := by
  by_cases hle : data.length ≤ most
  · rw [view_of_le fun _ hm => by cases hm; omega]
    rcases whole_cases data with ⟨text, rfl, hw⟩ | hw
    · exact .inl ⟨text, hle, .inl hw⟩
    · exact .inr ⟨data, hle, hw⟩
  · have hkept : (data.take most).length ≤ most := by
      rw [List.length_take]
      exact Nat.min_le_left _ _
    rw [view_of_lt (by omega), Cut.keep_natCast]
    by_cases he : Utf8.Extendable (data.take most)
    · obtain ⟨shown, hs, hlongest, -⟩ := leftover_of_extendable he
      exact .inl ⟨shown, Nat.le_trans hlongest.begins.length_le hkept, .inr hs⟩
    · exact .inr ⟨_, hkept, leftover_of_not_extendable he⟩

theorem length_ofText_ellipsis (shown : String) :
    (Utf8.ofText (shown ++ "...")).length = (Utf8.ofText shown).length + 3 := by
  rw [Utf8.ofText, String.toList_append, Utf8.encode_append, List.length_append]
  rfl

/-- **The line of a payload is bounded by the limit**, however long the payload is. -/
theorem length_format_le {most : Nat} (h : 14 ≤ most) (data : Bytes) :
    (format (some most) data).length ≤ 5 * most := by
  rw [format]
  rcases view_within most data with ⟨shown, hs, hv | hv⟩ | ⟨shown, hs, hv⟩
  · have hq := Quoted.length_quote_le shown
    rw [hv, View.line]
    omega
  · have hq := Quoted.length_quote_le (shown ++ "...")
    rw [length_ofText_ellipsis] at hq
    rw [hv, View.line]
    omega
  · rw [hv, View.line]
    cases shown with
    | nil =>
      have hempty : (listing []).length = 2 := by decide
      omega
    | cons b rest =>
      have hl := length_listing_le (List.cons_ne_nil b rest)
      omega

-- Bytes of three digits reach the bound.
example : (format (some 14) (List.replicate 15 0xFF)).length = 5 * 14 := by
  decide

end Payload

end StreamRequest
