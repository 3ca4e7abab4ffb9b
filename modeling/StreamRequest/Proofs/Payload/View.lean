/-
How a payload is shown, whole or cut at any of its bytes.

A payload that is shown whole is text exactly if it is well formed. What a cut has
left is text exactly if it begins one, and then all of it is shown but for the
bytes of one character (`leftover_of_extendable`, `leftover_of_not_extendable`).
A cut of a text begins one.
-/
import StreamRequest.Payload
import StreamRequest.Proofs.Text.Utf8Prefix

namespace StreamRequest.Payload

open Utf8 (Extendable LongestText WellFormed)

variable {data : Bytes}

/-! ## Payloads shown whole -/

@[simp] theorem whole_ofText (text : String) : whole (Utf8.ofText text) = .text text := by
  simp [whole]

theorem whole_of_not_wellFormed (h : ¬WellFormed data) : whole data = .bytes data := by
  unfold whole
  split
  · rename_i text ht
    exact absurd (Utf8.toText_eq_ok_iff.1 ht ▸ Utf8.wellFormed_ofText text) h
  · rfl

/-! ## What a cut has left -/

/-- The beginning of a text is shown up to the character that it ends within, if there is one. -/
theorem leftover_of_extendable (h : Extendable data) :
    ∃ shown, leftover data = .text (shown ++ "...") ∧ LongestText data shown ∧
      data.length ≤ (Utf8.ofText shown).length + 3 := by
  cases hd : Utf8.decode data with
  | ok chars =>
    obtain rfl := Utf8.decode_eq_ok_iff.1 hd
    refine ⟨.ofList chars, ?_, ?_, ?_⟩
    · rw [leftover, Utf8.toText, hd]
      rfl
    · simpa [Utf8.ofText] using Utf8.longestText_ofText (.ofList chars)
    · simp [Utf8.ofText]
  | error fault =>
    obtain ⟨text, a, rest, length, rfl, hr, hs, -⟩ := Utf8.decode_eq_error hd
    obtain ⟨defect, start, stop⟩ := fault
    obtain rfl : defect = .unexpectedEnd := Utf8.extendable_iff.1 h _ hd
    have hshort := (Utf8.cutChar_of_readChar hr).short
    simp only at hs
    refine ⟨.ofList text, ?_, ?_, ?_⟩
    · rw [leftover, Utf8.toText_eq_error_iff.2 hd]
      simp only [hs, List.take_left, Utf8.toText, Utf8.decode_encode]
      rfl
    · simpa [Utf8.ofText] using Utf8.longestText_of_ill hr (.ofList text)
    · simp [Utf8.ofText]
      omega

theorem leftover_of_not_extendable (h : ¬Extendable data) : leftover data = .bytes data := by
  unfold leftover
  split
  · rename_i text ht
    exact absurd (.of_wellFormed (Utf8.toText_eq_ok_iff.1 ht ▸ Utf8.wellFormed_ofText text)) h
  · rename_i start stop hf
    exact absurd (.of_unexpectedEnd (Utf8.toText_eq_error_iff.1 hf)) h
  · rfl

/-! ## Payloads and limits -/

theorem view_of_le {limit : Option Int} (h : ∀ most, limit = some most → data.length ≤ most) :
    view limit data = whole data := by
  cases limit with
  | none => rfl
  | some most => exact if_neg (Int.not_lt.2 (h most rfl))

theorem view_of_lt {most : Int} (h : most < data.length) :
    view (some most) data = leftover (Cut.keep most data) :=
  if_pos h

/-- No cut makes numbers of a text. -/
theorem view_ofText (limit : Option Int) (text : String) :
    ∃ shown, view limit (Utf8.ofText text) = .text shown := by
  by_cases h : ∀ most, limit = some most → (Utf8.ofText text).length ≤ most
  · exact ⟨text, by rw [view_of_le h, whole_ofText]⟩
  · obtain ⟨most, rfl, hlt⟩ : ∃ most, limit = some most ∧ most < (Utf8.ofText text).length := by
      simpa using h
    obtain ⟨shown, hs, -⟩ := leftover_of_extendable (.take (Utf8.wellFormed_ofText text) _)
    exact ⟨_, (view_of_lt hlt).trans hs⟩

/-- **How a payload is shown.** Whole, it is the text that it spells, or else all of its bytes. Cut
to fewer bytes, it is text exactly if these begin one: then the longest text that they begin with is
shown, which leaves out at most three of them, and three dots; otherwise just these bytes are. So a
text is shown as text at every limit. Wherever a cut ends, what stands before a fault can be read. -/
theorem view_at_every_cut (data : Bytes) :
    (∀ limit : Option Int, (∀ most, limit = some most → data.length ≤ most) →
      (∀ text, Utf8.ofText text = data → view limit data = .text text) ∧
      (¬WellFormed data → view limit data = .bytes data)) ∧
    (∀ most : Nat, most < data.length →
      ((∃ text, view (some most) data = .text text) ↔ Extendable (data.take most)) ∧
      (∀ text, view (some most) data = .text text →
        ∃ shown, text = shown ++ "..." ∧ LongestText (data.take most) shown ∧
          most ≤ (Utf8.ofText shown).length + 3) ∧
      (¬Extendable (data.take most) → view (some most) data = .bytes (data.take most))) ∧
    (WellFormed data → ∀ limit, ∃ text, view limit data = .text text) ∧
    ∀ most fault, Utf8.toText (Cut.keep most data) = .error fault →
      ∃ text, Utf8.toText ((Cut.keep most data).take fault.start) = .ok text := by
  refine ⟨fun limit h => ⟨fun text ht => ?_, fun hw => ?_⟩, fun most hlt => ?_, fun hw limit => ?_,
    fun most fault => Utf8.toText_take_start⟩
  · rw [view_of_le h, ← ht, whole_ofText]
  · rw [view_of_le h, whole_of_not_wellFormed hw]
  · have hview : view (some most) data = leftover (data.take most) := by
      rw [view_of_lt (by omega), Cut.keep_natCast]
    rw [hview]
    by_cases he : Extendable (data.take most)
    · obtain ⟨shown, hs, hlongest, hlength⟩ := leftover_of_extendable he
      rw [List.length_take_of_le (Nat.le_of_lt hlt)] at hlength
      refine ⟨⟨fun _ => he, fun _ => ⟨_, hs⟩⟩, fun text ht => ?_, fun hn => absurd he hn⟩
      exact ⟨shown, View.text.inj (ht.symm.trans hs), hlongest, hlength⟩
    · have hb := leftover_of_not_extendable he
      refine ⟨⟨fun h => ?_, fun h => absurd h he⟩, fun text ht => ?_, fun _ => hb⟩
      · obtain ⟨text, ht⟩ := h
        rw [hb] at ht
        cases ht
      · rw [hb] at ht
        cases ht
  · obtain ⟨text, rfl⟩ := Utf8.exists_ofText hw
    exact view_ofText limit text

/-- A letter and a sign of four bytes, whole, cut within the sign, and cut from the end; three bytes
that are no text, whole and cut. -/
theorem view_at_every_cut_within :
    let sign : Bytes := [0x61, 0xF0, 0x9F, 0x98, 0x80]
    let surrogate : Bytes := [0xED, 0xA0, 0x80]
    WellFormed sign ∧ ¬WellFormed surrogate ∧ ¬Extendable (surrogate.take 2) ∧
      Utf8.toText (Cut.keep 4 sign) = .error ⟨.unexpectedEnd, 1, 4⟩ ∧
      view (some 5) sign = .text "a😀" ∧ view none surrogate = .bytes surrogate ∧
      (∃ shown, "a..." = shown ++ "..." ∧ LongestText (sign.take 4) shown ∧
        4 ≤ (Utf8.ofText shown).length + 3) ∧
      view (some 2) surrogate = .bytes [0xED, 0xA0] ∧
      (∃ text, view (some (-2)) sign = .text text) ∧
      ∃ text, Utf8.toText ((Cut.keep 4 sign).take 1) = .ok text := by
  intro sign surrogate
  have hw : WellFormed sign := ⟨"a😀".toList, by decide⟩
  have hn : ¬Extendable (surrogate.take 2) := fun h =>
    absurd (Utf8.extendable_iff.1 h ⟨.invalidContinuation, 0, 1⟩ (by decide)) (by decide)
  have hs : ¬WellFormed surrogate := fun h => hn (.take h 2)
  have hf : Utf8.toText (Cut.keep 4 sign) = .error ⟨.unexpectedEnd, 1, 4⟩ := by decide
  have hcut := (view_at_every_cut sign).2.1 4 (by decide)
  exact ⟨hw, hs, hn, hf,
    ((view_at_every_cut sign).1 _ fun _ h => Option.some.inj h ▸ by decide).1 _ (by decide),
    ((view_at_every_cut surrogate).1 none fun _ h => nomatch h).2 hs,
    hcut.2.1 "a..." (by decide),
    ((view_at_every_cut surrogate).2.1 2 (by decide)).2.2 hn,
    (view_at_every_cut sign).2.2.1 hw _,
    (view_at_every_cut sign).2.2.2 4 _ hf⟩

end StreamRequest.Payload
