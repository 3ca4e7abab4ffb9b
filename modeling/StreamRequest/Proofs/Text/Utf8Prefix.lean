/-
What begins a text: bytes that can be extended to well-formed UTF-8, and the
longest text that bytes begin with.

More bytes do not change what is read at the head of some bytes, nor what is
wrong there, unless the data ended within a character (`readChar_append_of_char`,
`readChar_append_of_ill`). Data that do end within a character have all of it but
for up to three bytes, and some character goes on as they do (`cutChar_of_readChar`).
So bytes begin a text exactly if nothing worse than their end is in the way of
reading them (`extendable_iff`), and what stands before a fault is the longest
text that they begin with (`longestText_of_ill`).
-/
import StreamRequest.Proofs.Text.Utf8Fault

namespace StreamRequest.Utf8

/-- Some bytes behind them make the data well formed. -/
def Extendable (data : Bytes) : Prop :=
  ∃ more, WellFormed (data ++ more)

/-- The data begin with the text, and with no text that goes on beyond it. -/
structure LongestText (data : Bytes) (text : String) : Prop where
  begins : ofText text <+: data
  longest : ∀ other, ofText other <+: data → ofText other <+: ofText text

/-! ## The head of some bytes -/

/-- The first byte alone decides what is read, or how many bytes are needed for it. -/
theorem readChar_lead (a : UInt8) :
    (∃ c, ∀ rest, readChar a rest = .char c 1) ∨
    (∀ rest, readChar a rest = .ill .invalidStart 1) ∨
    (0xC2 ≤ a.toNat ∧ a.toNat < 0xE0 ∧ ∀ rest, readChar a rest = readTwo a rest) ∨
    (0xE0 ≤ a.toNat ∧ a.toNat < 0xF0 ∧ ∀ rest, readChar a rest = readThree a rest) ∨
    (0xF0 ≤ a.toNat ∧ a.toNat < 0xF5 ∧ ∀ rest, readChar a rest = readFour a rest) := by
  unfold readChar
  split
  · exact .inl ⟨_, fun _ => rfl⟩
  split
  · exact .inr (.inl fun _ => rfl)
  split
  · exact .inr (.inr (.inl ⟨by omega, by omega, fun _ => rfl⟩))
  split
  · exact .inr (.inr (.inr (.inl ⟨by omega, by omega, fun _ => rfl⟩)))
  split
  · exact .inr (.inr (.inr (.inr ⟨by omega, by omega, fun _ => rfl⟩)))
  · exact .inr (.inl fun _ => rfl)

theorem readChar_append_of_char {a : UInt8} {rest : Bytes} {c : Char} {width : Nat}
    (h : readChar a rest = .char c width) (more : Bytes) :
    readChar a (rest ++ more) = .char c width := by
  obtain ⟨tail, after, rfl, he, rfl⟩ := encodeChar_of_readChar h
  obtain ⟨b, others, he', hr⟩ := readChar_encodeChar c (after ++ more)
  obtain ⟨rfl, rfl⟩ := List.cons.inj (he.symm.trans he')
  rw [List.append_assoc, hr]

section

variable {a : UInt8} {rest : Bytes} {defect : Defect} {length : Nat}

theorem readTwo_append_of_ill (h : readTwo a rest = .ill defect length)
    (hd : defect ≠ .unexpectedEnd) (more : Bytes) :
    readTwo a (rest ++ more) = .ill defect length := by
  match rest with
  | [] => exact absurd (Reading.ill.inj h).1.symm hd
  | _ :: _ => exact h

theorem readThree_of_not_isSecond {b : UInt8} (h : ¬isSecond a b = true) : ∀ more : Bytes,
    readThree a (b :: more) = .ill .invalidContinuation 1
  | [] | _ :: _ => if_neg h

theorem readThree_append_of_ill (h : readThree a rest = .ill defect length)
    (hd : defect ≠ .unexpectedEnd) (more : Bytes) :
    readThree a (rest ++ more) = .ill defect length := by
  match rest with
  | [] => exact absurd (Reading.ill.inj h).1.symm hd
  | [b] =>
    by_cases hs : isSecond a b = true
    · rw [readThree, if_pos hs] at h
      exact absurd (Reading.ill.inj h).1.symm hd
    · rw [readThree_of_not_isSecond hs] at h
      exact (readThree_of_not_isSecond hs more).trans h
  | _ :: _ :: _ => exact h

theorem readFour_of_not_isSecond {b : UInt8} (h : ¬isSecond a b = true) : ∀ more : Bytes,
    readFour a (b :: more) = .ill .invalidContinuation 1
  | [] | [_] | _ :: _ :: _ => if_neg h

theorem readFour_of_not_isTrail {b c : UInt8} (hs : isSecond a b = true) (h : ¬isTrail c = true) :
    ∀ more : Bytes, readFour a (b :: c :: more) = .ill .invalidContinuation 2
  | [] | _ :: _ => (if_pos hs).trans (if_neg h)

theorem readFour_append_of_ill (h : readFour a rest = .ill defect length)
    (hd : defect ≠ .unexpectedEnd) (more : Bytes) :
    readFour a (rest ++ more) = .ill defect length := by
  match rest with
  | [] => exact absurd (Reading.ill.inj h).1.symm hd
  | [b] =>
    by_cases hs : isSecond a b = true
    · rw [readFour, if_pos hs] at h
      exact absurd (Reading.ill.inj h).1.symm hd
    · rw [readFour_of_not_isSecond hs] at h
      exact (readFour_of_not_isSecond hs more).trans h
  | [b, c] =>
    by_cases hs : isSecond a b = true
    · by_cases ht : isTrail c = true
      · rw [readFour, if_pos hs, if_pos ht] at h
        exact absurd (Reading.ill.inj h).1.symm hd
      · rw [readFour_of_not_isTrail hs ht] at h
        exact (readFour_of_not_isTrail hs ht more).trans h
    · rw [readFour_of_not_isSecond hs] at h
      exact (readFour_of_not_isSecond hs (c :: more)).trans h
  | _ :: _ :: _ :: _ => exact h

/-- What is wrong within some bytes stays wrong, whatever follows them. -/
theorem readChar_append_of_ill (h : readChar a rest = .ill defect length)
    (hd : defect ≠ .unexpectedEnd) (more : Bytes) :
    readChar a (rest ++ more) = .ill defect length := by
  obtain ⟨c, hr⟩ | hr | ⟨-, -, hr⟩ | ⟨-, -, hr⟩ | ⟨-, -, hr⟩ := readChar_lead a
  · rw [hr] at h
    cases h
  · rw [hr] at h ⊢
    exact h
  · rw [hr] at h ⊢
    exact readTwo_append_of_ill h hd more
  · rw [hr] at h ⊢
    exact readThree_append_of_ill h hd more
  · rw [hr] at h ⊢
    exact readFour_append_of_ill h hd more

end

/-! ## A character cut short -/

/-- Up to three bytes, all there are, with which some character begins that has more. -/
structure CutChar (a : UInt8) (rest : Bytes) (length : Nat) : Prop where
  all : length = rest.length + 1
  short : rest.length ≤ 2
  goes_on : ∃ c more, encodeChar c = a :: (rest ++ more)

/-- After every first byte there is a second that fits: a great one where small ones do not. -/
theorem exists_isSecond (a : UInt8) : ∃ b, isSecond a b = true := by
  by_cases h : a.toNat = 0xE0 ∨ a.toNat = 0xF0
  · exact ⟨0xBF, isSecond_iff.2 (by show _ ∧ _; simp; omega)⟩
  · exact ⟨0x80, isSecond_iff.2 (by show _ ∧ _; simp; omega)⟩

section

variable {a : UInt8} {rest : Bytes} {length : Nat}

theorem cutChar_of_readTwo (h₁ : 0xC2 ≤ a.toNat) (h₂ : a.toNat < 0xE0)
    (h : readTwo a rest = .ill .unexpectedEnd length) : CutChar a rest length := by
  unfold readTwo at h
  split at h
  · obtain ⟨-, rfl⟩ := Reading.ill.inj h
    obtain ⟨b, hb⟩ := exists_isSecond a
    exact ⟨rfl, by decide, _, [b], encodeChar_ofTwo h₁ h₂ hb⟩
  · split at h <;> cases h

theorem cutChar_of_readThree (h₁ : 0xE0 ≤ a.toNat) (h₂ : a.toNat < 0xF0)
    (h : readThree a rest = .ill .unexpectedEnd length) : CutChar a rest length := by
  have ht : isTrail 0x80 = true := rfl
  unfold readThree at h
  split at h
  · obtain ⟨-, rfl⟩ := Reading.ill.inj h
    obtain ⟨b, hb⟩ := exists_isSecond a
    exact ⟨rfl, by decide, _, [b, 0x80], encodeChar_ofThree h₁ h₂ hb ht⟩
  · split at h
    · obtain ⟨-, rfl⟩ := Reading.ill.inj h
      exact ⟨rfl, by simp, _, [0x80], encodeChar_ofThree h₁ h₂ (by assumption) ht⟩
    · cases h
  · split at h
    · split at h <;> cases h
    · cases h

theorem cutChar_of_readFour (h₁ : 0xF0 ≤ a.toNat) (h₂ : a.toNat < 0xF5)
    (h : readFour a rest = .ill .unexpectedEnd length) : CutChar a rest length := by
  have ht : isTrail 0x80 = true := rfl
  unfold readFour at h
  split at h
  · obtain ⟨-, rfl⟩ := Reading.ill.inj h
    obtain ⟨b, hb⟩ := exists_isSecond a
    exact ⟨rfl, by decide, _, [b, 0x80, 0x80], encodeChar_ofFour h₁ h₂ hb ht ht⟩
  · split at h
    · obtain ⟨-, rfl⟩ := Reading.ill.inj h
      exact ⟨rfl, by simp, _, [0x80, 0x80], encodeChar_ofFour h₁ h₂ (by assumption) ht ht⟩
    · cases h
  · split at h
    · split at h
      · obtain ⟨-, rfl⟩ := Reading.ill.inj h
        exact ⟨rfl, by simp, _, [0x80], encodeChar_ofFour h₁ h₂ (by assumption) (by assumption) ht⟩
      · cases h
    · cases h
  · split at h
    · split at h
      · split at h <;> cases h
      · cases h
    · cases h

/-- Data that end within a character are the beginning of one. -/
theorem cutChar_of_readChar (h : readChar a rest = .ill .unexpectedEnd length) :
    CutChar a rest length := by
  obtain ⟨c, hr⟩ | hr | ⟨h₁, h₂, hr⟩ | ⟨h₁, h₂, hr⟩ | ⟨h₁, h₂, hr⟩ := readChar_lead a
  · rw [hr] at h
    cases h
  · rw [hr] at h
    cases h
  · exact cutChar_of_readTwo h₁ h₂ (hr rest ▸ h)
  · exact cutChar_of_readThree h₁ h₂ (hr rest ▸ h)
  · exact cutChar_of_readFour h₁ h₂ (hr rest ▸ h)

end

/-! ## Texts -/

theorem decode_encode_append {a : UInt8} {rest : Bytes} {defect : Defect} {length : Nat}
    (h : readChar a rest = .ill defect length) (text : List Char) :
    decode (encode text ++ a :: rest) =
      .error ⟨defect, (encode text).length, (encode text).length + length⟩ := by
  rw [decode, decodeFrom_encode, Nat.zero_add, decodeFrom]
  simp only [h]
  rfl

theorem Extendable.of_wellFormed {data : Bytes} (h : WellFormed data) : Extendable data :=
  ⟨[], by rwa [List.append_nil]⟩

theorem Extendable.take {data : Bytes} (h : WellFormed data) (n : Nat) :
    Extendable (data.take n) :=
  ⟨data.drop n, by rwa [List.take_append_drop]⟩

theorem Extendable.of_unexpectedEnd {data : Bytes} {start stop : Nat}
    (h : decode data = .error ⟨.unexpectedEnd, start, stop⟩) : Extendable data := by
  obtain ⟨text, a, rest, length, rfl, hr, -, -⟩ := decode_eq_error h
  obtain ⟨c, more, hc⟩ := (cutChar_of_readChar hr).goes_on
  refine ⟨more, text ++ [c], ?_⟩
  simp [encode, hc]

theorem not_extendable {data : Bytes} {fault : Fault} (h : decode data = .error fault)
    (hd : fault.defect ≠ .unexpectedEnd) : ¬Extendable data := by
  intro he
  obtain ⟨more, text, ht⟩ := he
  obtain ⟨before, a, rest, length, rfl, hr, -, -⟩ := decode_eq_error h
  rw [List.append_assoc] at ht
  have hok := decode_eq_ok_iff.2 ht
  rw [List.cons_append, decode_encode_append (readChar_append_of_ill hr hd more)] at hok
  cases hok

/-- **What can be extended**: data that are read, or end within a character. -/
theorem extendable_iff {data : Bytes} :
    Extendable data ↔ ∀ fault, decode data = .error fault → fault.defect = .unexpectedEnd := by
  constructor
  · intro h fault hf
    exact Decidable.byContradiction fun hd => not_extendable hf hd h
  · intro h
    cases hd : decode data with
    | ok text => exact .of_wellFormed ⟨text, decode_eq_ok_iff.1 hd⟩
    | error fault =>
      obtain ⟨defect, start, stop⟩ := fault
      obtain rfl : defect = .unexpectedEnd := h _ hd
      exact .of_unexpectedEnd hd

/-! ## The longest text -/

theorem longestText_ofText (text : String) : LongestText (ofText text) text :=
  ⟨List.prefix_rfl, fun _ h => h⟩

/-- What stands before a fault is the longest text that data begin with. -/
theorem longestText_of_ill {a : UInt8} {rest : Bytes} {defect : Defect} {length : Nat}
    (h : readChar a rest = .ill defect length) (text : String) :
    LongestText (ofText text ++ a :: rest) text := by
  refine ⟨List.prefix_append _ _, fun other ho => ?_⟩
  obtain hp | ⟨tail, ht⟩ := List.prefix_or_prefix_of_prefix ho (List.prefix_append _ (a :: rest))
  · exact hp
  cases tail with
  | nil =>
    rw [List.append_nil] at ht
    exact ht ▸ List.prefix_rfl
  | cons b others =>
    -- A longer text would have a character where the fault is, and still have it in the data.
    rw [← ht, List.prefix_append_right_inj] at ho
    obtain ⟨more, hm⟩ := ho
    rw [List.cons_append] at hm
    obtain ⟨rfl, rfl⟩ := List.cons.inj hm
    cases hr : readChar b others with
    | char c width =>
      rw [readChar_append_of_char hr more] at h
      cases h
    | ill found n =>
      have hok : decode (ofText other) = .ok other.toList := decode_encode other.toList
      rw [← ht, ofText, decode_encode_append hr] at hok
      cases hok

end StreamRequest.Utf8
