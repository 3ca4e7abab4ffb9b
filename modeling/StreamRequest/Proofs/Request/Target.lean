/-
What a target is read as, whatever its bytes are.

A target is taken apart before its parts are read, at the first colon. A colon is
a byte of its own in UTF-8, so the target is text exactly if both parts are
(`wellFormed_iff_parts`), and the text of the target splits where its bytes do.
What may stand behind the colon is said here without the reader
(`Decimal.Denotes`): digits with a place value each, behind one sign at most.
That the reader takes the same is `readInt?_eq_some_iff`.
-/
import Mathlib.Algebra.Group.Int.Defs
import Mathlib.Algebra.Group.Nat.Defs
import StreamRequest.Proofs.Request.RoundTrip

namespace StreamRequest

/-! ## Signed digits -/

namespace Decimal

/-- At least one and at most `limit` digits of ASCII. -/
structure Digits (limit : Nat) (digits : List Char) : Prop where
  nonempty : digits ≠ []
  ascii : ∀ c ∈ digits, '0' ≤ c ∧ c ≤ '9'
  few : digits.length ≤ limit

/-- The number that digits denote, each of them by its place. -/
def placeValue : List Char → Nat
  | [] => 0
  | c :: rest => (c.toNat - '0'.toNat) * 10 ^ rest.length + placeValue rest

/-- Digits behind one sign or none, and the integer that they denote. -/
inductive Denotes (limit : Nat) : List Char → Int → Prop where
  | unsigned {digits : List Char} (h : Digits limit digits) : Denotes limit digits (placeValue digits)
  | plus {digits : List Char} (h : Digits limit digits) :
    Denotes limit ('+' :: digits) (placeValue digits)
  | minus {digits : List Char} (h : Digits limit digits) :
    Denotes limit ('-' :: digits) (-placeValue digits)

theorem ofDigitChars_eq (digits : List Char) (n : Nat) :
    Nat.ofDigitChars 10 digits n = n * 10 ^ digits.length + placeValue digits := by
  induction digits generalizing n with
  | nil => simp [placeValue]
  | cons c rest ih =>
    rw [Nat.ofDigitChars_cons, ih, placeValue, List.length_cons, Nat.pow_succ, Nat.add_mul,
      Nat.mul_comm 10 n, Nat.mul_assoc, Nat.mul_comm 10, Nat.add_assoc]

theorem isDigit_iff {c : Char} : c.isDigit = true ↔ '0' ≤ c ∧ c ≤ '9' := by
  simp only [Char.isDigit, Bool.and_eq_true, decide_eq_true_eq]
  rfl

theorem readNat?_eq_some_iff {limit n : Nat} {digits : List Char} :
    readNat? limit digits = some n ↔ Digits limit digits ∧ placeValue digits = n := by
  have hvalue : Nat.ofDigitChars 10 digits 0 = placeValue digits := by
    rw [ofDigitChars_eq, Nat.zero_mul, Nat.zero_add]
  have hdigits : (digits ≠ [] ∧ digits.all Char.isDigit ∧ digits.length ≤ limit) ↔
      Digits limit digits := by
    simp only [List.all_eq_true, isDigit_iff]
    exact ⟨fun h => ⟨h.1, h.2.1, h.2.2⟩, fun h => ⟨h.nonempty, h.ascii, h.few⟩⟩
  unfold readNat?
  rw [hvalue]
  by_cases h : Digits limit digits
  · simp only [if_pos (hdigits.2 h), Option.some.injEq, h, true_and]
  · simp only [if_neg fun hd => h (hdigits.1 hd), h, false_and, reduceCtorEq]

/-- What is read is what digits denote behind a sign or without one. -/
theorem readInt?_eq_some_iff {limit : Nat} {text : List Char} {i : Int} :
    readInt? limit text = some i ↔ Denotes limit text i := by
  refine ⟨fun h => ?_, fun h => ?_⟩
  · unfold readInt? at h
    split at h
    · rename_i digits
      cases hn : readNat? limit digits with
      | none =>
        rw [hn] at h
        cases h
      | some n =>
        rw [hn] at h
        obtain rfl := Option.some.inj h
        obtain ⟨hd, rfl⟩ := readNat?_eq_some_iff.1 hn
        exact .minus hd
    · obtain ⟨n, hn, rfl⟩ := Option.map_eq_some_iff.1 h
      obtain ⟨hd, rfl⟩ := readNat?_eq_some_iff.1 hn
      exact .plus hd
    · obtain ⟨n, hn, rfl⟩ := Option.map_eq_some_iff.1 h
      obtain ⟨hd, rfl⟩ := readNat?_eq_some_iff.1 hn
      exact .unsigned hd
  · cases h with
    | unsigned hd =>
      have hsign : ∀ c : Char, c.isDigit = false → ∀ rest, text ≠ c :: rest := by
        intro c hc rest e
        have := isDigit_iff.2 (hd.ascii c (e ▸ List.mem_cons_self))
        rw [hc] at this
        cases this
      rw [readInt?_of_unsigned (hsign '-' (by decide)) (hsign '+' (by decide)),
        readNat?_eq_some_iff.2 ⟨hd, rfl⟩]
      rfl
    | plus hd =>
      rw [readInt?, readNat?_eq_some_iff.2 ⟨hd, rfl⟩]
      rfl
    | minus hd =>
      rw [readInt?, readNat?_eq_some_iff.2 ⟨hd, rfl⟩]
      rfl

end Decimal

namespace Request

open Utf8 (WellFormed ofText_append wellFormed_ofText exists_ofText)

/-! ## Parts -/

/-- Bytes around the first colon are text exactly if those before it are and those behind it are. -/
theorem wellFormed_iff_parts {before after : Bytes} (hb : Command.separator ∉ before) :
    WellFormed (before ++ Command.separator :: after) ↔ WellFormed before ∧ WellFormed after := by
  have hcolon : Utf8.encodeChar ':' = [Command.separator] := by decide
  constructor
  · intro h
    obtain ⟨text, ht⟩ := h
    have hm : ':' ∈ text := (Utf8.mem_encode_iff (c := ':') (by decide)).1 (by
      rw [ht]
      exact List.mem_append_right _ List.mem_cons_self)
    obtain ⟨front, back, rfl, hf⟩ := List.eq_append_cons_of_mem hm
    have hn : Command.separator ∉ Utf8.encode front := fun h =>
      hf ((Utf8.mem_encode_iff (c := ':') (by decide)).1 h)
    rw [Utf8.encode_append, Utf8.encode_cons, hcolon, List.singleton_append] at ht
    -- Both splits are at the first colon of the same bytes.
    have hs := Bytes.splitFirst_append hn (Utf8.encode back)
    rw [ht, Bytes.splitFirst_append hb] at hs
    obtain ⟨rfl, ha⟩ := Prod.mk.inj hs
    exact ⟨⟨front, rfl⟩, back, (Option.some.inj ha).symm⟩
  · intro h
    obtain ⟨⟨front, rfl⟩, back, rfl⟩ := h
    exact ⟨front ++ ':' :: back, by simp [hcolon]⟩

theorem text_of_not_wellFormed {data : Bytes} (h : ¬WellFormed data) :
    ∃ fault, text data = .error (.notText fault) := by
  cases hd : Utf8.toText data with
  | ok name => exact absurd (Utf8.toText_eq_ok_iff.1 hd ▸ wellFormed_ofText name) h
  | error fault => exact ⟨fault, by rw [text, hd]; rfl⟩

theorem offset_eq_error {spelled : String} (h : ∀ i, offset spelled ≠ .ok i) :
    offset spelled = .error (.badOffset spelled) := by
  unfold offset at h ⊢
  split at h
  · rename_i i _
    by_cases hr : Command.tail ≤ i ∧ i ≤ Command.maxOffset
    · exact absurd (if_pos hr) (h i)
    · exact if_neg hr
  · rfl

/-! ## Targets -/

theorem target_of_stream {stream : String} (hc : ':' ∉ stream.toList) :
    target (Utf8.ofText stream) = .ok (stream, Command.tail) :=
  target_eq_ok_iff.2 ⟨hc, .inl ⟨rfl, rfl⟩⟩

theorem target_of_parts {stream spelled : String} (hc : ':' ∉ stream.toList) :
    target (Utf8.ofText stream ++ Command.separator :: Utf8.ofText spelled) =
      (offset spelled).map fun i => (stream, i) := by
  have hn : Command.separator ∉ Utf8.ofText stream := fun h => hc (separator_mem_iff.1 h)
  unfold target
  simp [Bytes.splitFirst_append hn]
  cases offset spelled <;> rfl

/-- A target that is no text is refused as such, whichever part is none. -/
theorem target_of_not_wellFormed {data : Bytes} (h : ¬WellFormed data) :
    ∃ fault, target data = .error (.notText fault) := by
  unfold target
  rcases Bytes.splitFirst_cases Command.separator data with ⟨-, hs⟩ | ⟨before, after, hb, rfl, hs⟩
  · obtain ⟨fault, hf⟩ := text_of_not_wellFormed h
    exact ⟨fault, by simp only [hs, hf]; rfl⟩
  · by_cases hw : WellFormed before
    · obtain ⟨stream, rfl⟩ := exists_ofText hw
      obtain ⟨fault, hf⟩ := text_of_not_wellFormed fun ha => h ((wellFormed_iff_parts hb).2 ⟨hw, ha⟩)
      exact ⟨fault, by simp [hs, hf]; rfl⟩
    · obtain ⟨fault, hf⟩ := text_of_not_wellFormed hw
      exact ⟨fault, by simp only [hs, hf]; rfl⟩

theorem target_of_wellFormed {data : Bytes} (h : WellFormed data) (fault : Utf8.Fault) :
    target data ≠ .error (.notText fault) := by
  rcases Bytes.splitFirst_cases Command.separator data with ⟨hn, -⟩ | ⟨before, after, hb, rfl, -⟩
  · obtain ⟨stream, rfl⟩ := exists_ofText h
    rw [target_of_stream fun hc => hn (separator_mem_iff.2 hc)]
    simp
  · obtain ⟨hw, ha⟩ := (wellFormed_iff_parts hb).1 h
    obtain ⟨stream, rfl⟩ := exists_ofText hw
    obtain ⟨spelled, rfl⟩ := exists_ofText ha
    rw [target_of_parts fun hc => hb (separator_mem_iff.2 hc)]
    by_cases ho : ∃ i, offset spelled = .ok i
    · obtain ⟨i, hi⟩ := ho
      rw [hi]
      simp [Except.map]
    · rw [offset_eq_error fun i hi => ho ⟨i, hi⟩]
      simp [Except.map]

/-- What an offset is: it may stand behind the colon of a target. -/
def IsOffset (spelled : String) (i : Int) : Prop :=
  Decimal.Denotes 4300 spelled.toList i ∧ -1 ≤ i ∧ i ≤ 2 ^ 63 - 1

theorem offset_eq_ok_iff_isOffset {spelled : String} {i : Int} :
    offset spelled = .ok i ↔ IsOffset spelled i := by
  rw [offset_eq_ok_iff, Decimal.readInt?_eq_some_iff]
  rfl

/-- **What becomes of a target.** It is refused as no text exactly if it is not UTF-8. A text without
a colon is a stream at its tail. A text with a colon is the stream before the first one, at the
offset behind it, or is refused with just what stands there if that is no offset. -/
theorem target_by_its_text (data : Bytes) :
    ((∃ fault, target data = .error (.notText fault)) ↔ ¬WellFormed data) ∧
    (∀ stream : String, Utf8.ofText stream = data → ':' ∉ stream.toList →
      target data = .ok (stream, -1)) ∧
    ∀ stream spelled : String, Utf8.ofText (stream ++ ":" ++ spelled) = data →
      ':' ∉ stream.toList →
      (∀ found i, target data = .ok (found, i) ↔ found = stream ∧ IsOffset spelled i) ∧
      ((∀ i, ¬IsOffset spelled i) → target data = .error (.badOffset spelled)) := by
  refine ⟨⟨fun h hw => ?_, target_of_not_wellFormed⟩, ?_, ?_⟩
  · obtain ⟨fault, hf⟩ := h
    exact target_of_wellFormed hw fault hf
  · intro stream hd hc
    rw [← hd]
    exact target_of_stream hc
  · intro stream spelled hd hc
    have hcolon : Utf8.ofText ":" = [Command.separator] := by decide
    rw [ofText_append, ofText_append, hcolon, List.append_assoc, List.singleton_append] at hd
    rw [← hd, target_of_parts hc]
    refine ⟨fun found i => ?_, fun h => ?_⟩
    · rw [Results.map_eq_ok_iff, ← offset_eq_ok_iff_isOffset]
      constructor
      · intro h
        obtain ⟨j, hj, e⟩ := h
        obtain ⟨rfl, rfl⟩ := Prod.mk.inj e
        exact ⟨rfl, hj⟩
      · intro h
        exact ⟨i, h.2, by rw [h.1]⟩
    · rw [offset_eq_error fun i hi => h i (offset_eq_ok_iff_isOffset.1 hi)]
      rfl

/-- A sign, needless zeros and the greatest offset behind the colon; a second colon; no colon; and
bytes behind it that are no text. -/
theorem target_by_its_text_edges :
    ':' ∉ "é".toList ∧ IsOffset "+009223372036854775807" (2 ^ 63 - 1) ∧
      (∀ i, ¬IsOffset "1:2" i) ∧ ¬WellFormed [0x73, 0x3A, 0x31, 0xC3] ∧
      target (Utf8.ofText "é:+009223372036854775807") = .ok ("é", 2 ^ 63 - 1) ∧
      target (Utf8.ofText "é:1:2") = .error (.badOffset "1:2") ∧
      target (Utf8.ofText "é") = .ok ("é", -1) ∧
      ∃ fault, target [0x73, 0x3A, 0x31, 0xC3] = .error (.notText fault) := by
  have hc : ':' ∉ "é".toList := by decide
  have hgreatest : IsOffset "+009223372036854775807" (2 ^ 63 - 1) :=
    offset_eq_ok_iff_isOffset.1 (by decide)
  have htwice : ∀ i, ¬IsOffset "1:2" i := by
    intro i h
    have hbad : offset "1:2" = .error (.badOffset "1:2") := by decide
    rw [offset_eq_ok_iff_isOffset.2 h] at hbad
    cases hbad
  have hbroken : ¬WellFormed [0x73, 0x3A, 0x31, 0xC3] := by
    intro h
    obtain ⟨text, ht⟩ := h
    have hfault : Utf8.decode [0x73, 0x3A, 0x31, 0xC3] = .error ⟨.unexpectedEnd, 3, 4⟩ := by decide
    rw [Utf8.decode_eq_ok_iff.2 ht] at hfault
    cases hfault
  exact ⟨hc, hgreatest, htwice, hbroken,
    (((target_by_its_text _).2.2 "é" "+009223372036854775807" (by decide) hc).1 _ _).2
      ⟨rfl, hgreatest⟩,
    ((target_by_its_text _).2.2 "é" "1:2" (by decide) hc).2 htwice,
    (target_by_its_text _).2.1 "é" rfl hc, (target_by_its_text _).1.2 hbroken⟩

end Request

end StreamRequest
