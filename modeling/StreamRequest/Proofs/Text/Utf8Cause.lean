/-
What a fault says of the data is exact.

A byte that begins no character rules the data out by itself. A byte that does not
continue a character stands behind bytes that do begin one (`badByte_of_readChar`):
without it the data would end within a character, and with it nothing that follows
can make up for it. So of the bytes up to the end of a fault, and of those with one
more, it is known whether they begin a text (`explains_of_decode`).
-/
import StreamRequest.Proofs.Text.Utf8Prefix

namespace StreamRequest.Utf8

/-! ## A byte that does not fit -/

/-- Where a reader of one character meets a byte that does not continue it: the bytes before would
only end too early, and with the byte the rest makes no difference. -/
structure BadByte (read : Bytes → Reading) (rest : Bytes) (length : Nat) : Prop where
  positive : 0 < length
  there : length ≤ rest.length
  before : read (rest.take (length - 1)) = .ill .unexpectedEnd length
  bad : read (rest.take length) = .ill .invalidContinuation length

section

variable {a : UInt8} {rest : Bytes} {defect : Defect} {length : Nat}

/-- A second byte that does not fit is met by every reader at the same place. -/
theorem badByte_second {read : Bytes → Reading} {b : UInt8} {more : Bytes}
    (hnil : read [] = .ill .unexpectedEnd 1) (hbad : read [b] = .ill .invalidContinuation 1) :
    BadByte read (b :: more) 1 :=
  ⟨Nat.one_pos, Nat.le_add_left 1 _, hnil, hbad⟩

theorem badByte_of_readTwo (h : readTwo a rest = .ill .invalidContinuation length) :
    BadByte (readTwo a) rest length := by
  cases rest with
  | nil => cases h
  | cons b more =>
    have hs : ¬isSecond a b = true := by
      intro hs
      rw [readTwo, if_pos hs] at h
      cases h
    have hbad : ∀ more : Bytes, readTwo a (b :: more) = .ill .invalidContinuation 1 :=
      fun _ => if_neg hs
    obtain ⟨-, rfl⟩ := Reading.ill.inj ((hbad more).symm.trans h)
    exact badByte_second rfl (hbad [])

theorem badByte_of_readThree (h : readThree a rest = .ill .invalidContinuation length) :
    BadByte (readThree a) rest length := by
  cases rest with
  | nil => cases h
  | cons b more =>
    by_cases hs : isSecond a b = true
    · cases more with
      | nil =>
        rw [readThree, if_pos hs] at h
        cases h
      | cons c others =>
        rw [readThree, if_pos hs] at h
        split at h
        · cases h
        · rename_i ht
          obtain ⟨-, rfl⟩ := Reading.ill.inj h
          exact ⟨Nat.two_pos, Nat.le_add_left 2 _, if_pos hs, (if_pos hs).trans (if_neg ht)⟩
    · obtain ⟨-, rfl⟩ := Reading.ill.inj ((readThree_of_not_isSecond hs more).symm.trans h)
      exact badByte_second rfl (readThree_of_not_isSecond hs [])

theorem badByte_of_readFour (h : readFour a rest = .ill .invalidContinuation length) :
    BadByte (readFour a) rest length := by
  cases rest with
  | nil => cases h
  | cons b more =>
    by_cases hs : isSecond a b = true
    · cases more with
      | nil =>
        rw [readFour, if_pos hs] at h
        cases h
      | cons c others =>
        by_cases ht : isTrail c = true
        · cases others with
          | nil =>
            rw [readFour, if_pos hs, if_pos ht] at h
            cases h
          | cons d others =>
            rw [readFour, if_pos hs, if_pos ht] at h
            split at h
            · cases h
            · rename_i hu
              obtain ⟨-, rfl⟩ := Reading.ill.inj h
              exact ⟨Nat.succ_pos 2, Nat.le_add_left 3 _, (if_pos hs).trans (if_pos ht),
                ((if_pos hs).trans (if_pos ht)).trans (if_neg hu)⟩
        · obtain ⟨-, rfl⟩ := Reading.ill.inj ((readFour_of_not_isTrail hs ht others).symm.trans h)
          exact ⟨Nat.two_pos, Nat.le_add_left 2 _, if_pos hs, readFour_of_not_isTrail hs ht []⟩
    · obtain ⟨-, rfl⟩ := Reading.ill.inj ((readFour_of_not_isSecond hs more).symm.trans h)
      exact badByte_second rfl (readFour_of_not_isSecond hs [])

theorem badByte_of_readChar (h : readChar a rest = .ill .invalidContinuation length) :
    BadByte (readChar a) rest length := by
  obtain ⟨c, hr⟩ | hr | ⟨-, -, hr⟩ | ⟨-, -, hr⟩ | ⟨-, -, hr⟩ := readChar_lead a
  · rw [hr] at h
    cases h
  · rw [hr] at h
    cases h
  · rw [funext hr] at h ⊢
    exact badByte_of_readTwo h
  · rw [funext hr] at h ⊢
    exact badByte_of_readThree h
  · rw [funext hr] at h ⊢
    exact badByte_of_readFour h

/-- Behind the first byte of a longer character no byte is blamed for beginning none. -/
theorem defect_ne_invalidStart {read : Bytes → Reading}
    (hread : read = readTwo a ∨ read = readThree a ∨ read = readFour a)
    (h : read rest = .ill defect length) : defect ≠ .invalidStart := by
  rintro rfl
  rcases hread with rfl | rfl | rfl
  · unfold readTwo at h
    repeat' split at h
    all_goals cases h
  · unfold readThree at h
    repeat' split at h
    all_goals cases h
  · unfold readFour at h
    repeat' split at h
    all_goals cases h

/-- A byte that begins no character is one by itself, whatever follows it. -/
theorem readChar_of_invalidStart (h : readChar a rest = .ill .invalidStart length) :
    length = 1 ∧ ∀ more, readChar a more = .ill .invalidStart 1 := by
  obtain ⟨c, hr⟩ | hr | ⟨-, -, hr⟩ | ⟨-, -, hr⟩ | ⟨-, -, hr⟩ := readChar_lead a
  · rw [hr] at h
    cases h
  · rw [hr] at h
    exact ⟨(Reading.ill.inj h).2.symm, hr⟩
  · exact absurd rfl (defect_ne_invalidStart (.inl (funext hr)) h)
  · exact absurd rfl (defect_ne_invalidStart (.inr (.inl (funext hr))) h)
  · exact absurd rfl (defect_ne_invalidStart (.inr (.inr (funext hr))) h)

/-- What is wrong at the head of some bytes covers at least one of them, and no more than there are. -/
theorem length_of_ill (h : readChar a rest = .ill defect length) :
    0 < length ∧ length ≤ rest.length + 1 := by
  cases defect with
  | invalidStart =>
    obtain ⟨rfl, -⟩ := readChar_of_invalidStart h
    exact ⟨Nat.one_pos, Nat.le_add_left 1 _⟩
  | unexpectedEnd =>
    rw [(cutChar_of_readChar h).all]
    exact ⟨Nat.succ_pos _, Nat.le_refl _⟩
  | invalidContinuation =>
    have hbad := badByte_of_readChar h
    exact ⟨hbad.positive, Nat.le_succ_of_le hbad.there⟩

end

/-! ## Faults -/

theorem Defect.reason_eq_iff {d e : Defect} : d.reason = e.reason ↔ d = e := by
  cases d <;> cases e <;> decide

/-- What a fault says of the data, in its own words. -/
structure Fault.Explains (fault : Fault) (data : Bytes) : Prop where
  /-- It covers at least one byte, and only bytes of the data. -/
  nonempty : fault.start < fault.stop
  within : fault.stop ≤ data.length
  /-- The bytes before it are a text. -/
  before : WellFormed (data.take fault.start)
  /-- The data end too early exactly if they begin a text, and then it lasts to their end. -/
  early : fault.defect.reason = "unexpected end of data" ↔ Extendable data
  atEnd : fault.defect.reason = "unexpected end of data" → fault.stop = data.length
  /-- A byte that begins no character is all that it covers, and no text goes on like that. -/
  noStart : fault.defect.reason = "invalid start byte" →
    fault.stop = fault.start + 1 ∧ ¬Extendable (data.take fault.stop)
  /-- The bytes that the next one does not continue begin a text, and with that byte they do not. -/
  noContinuation : fault.defect.reason = "invalid continuation byte" →
    Extendable (data.take fault.stop) ∧ ¬Extendable (data.take (fault.stop + 1))

theorem extendable_of_ill {a : UInt8} {rest : Bytes} {length : Nat}
    (h : readChar a rest = .ill .unexpectedEnd length) (text : List Char) :
    Extendable (encode text ++ a :: rest) :=
  .of_unexpectedEnd (decode_encode_append h text)

theorem not_extendable_of_ill {a : UInt8} {rest : Bytes} {defect : Defect} {length : Nat}
    (h : readChar a rest = .ill defect length) (hd : defect ≠ .unexpectedEnd) (text : List Char) :
    ¬Extendable (encode text ++ a :: rest) :=
  not_extendable (decode_encode_append h text) hd

theorem take_encode_append (text : List Char) (a : UInt8) (rest : Bytes) {n : Nat} (h : 0 < n) :
    (encode text ++ a :: rest).take ((encode text).length + n) =
      encode text ++ a :: rest.take (n - 1) := by
  obtain ⟨m, rfl⟩ : ∃ m, n = m + 1 := ⟨n - 1, by omega⟩
  rw [List.take_length_add_append, List.take_succ_cons, Nat.add_sub_cancel]

/-- **A fault explains its data.** -/
theorem explains_of_decode {data : Bytes} {fault : Fault} (h : decode data = .error fault) :
    fault.Explains data := by
  have hearly : fault.defect = .unexpectedEnd ↔ Extendable data :=
    ⟨fun hd => extendable_iff.2 fun _ h' => Except.error.inj (h.symm.trans h') ▸ hd,
      fun he => extendable_iff.1 he fault h⟩
  obtain ⟨text, a, rest, length, rfl, hr, hstart, hstop⟩ := decode_eq_error h
  obtain ⟨hpositive, hlength⟩ := length_of_ill hr
  have htotal : (encode text ++ a :: rest).length = (encode text).length + (rest.length + 1) := by
    rw [List.length_append, List.length_cons]
  have hreason : ∀ {d : Defect}, fault.defect.reason = d.reason → readChar a rest = .ill d length :=
    fun hd => Defect.reason_eq_iff.1 hd ▸ hr
  refine {
    nonempty := by omega
    within := by omega
    before := ⟨text, by rw [hstart, List.take_left]⟩
    early := Iff.trans (Defect.reason_eq_iff (e := .unexpectedEnd)) hearly
    atEnd := fun hd => ?_
    noStart := fun hd => ?_
    noContinuation := fun hd => ?_ }
  · have hall := (cutChar_of_readChar (hreason (d := .unexpectedEnd) hd)).all
    omega
  · obtain ⟨rfl, hany⟩ := readChar_of_invalidStart (hreason (d := .invalidStart) hd)
    refine ⟨hstop, ?_⟩
    rw [hstop, hstart, take_encode_append text a rest hpositive]
    exact not_extendable_of_ill (hany _) (by decide) text
  · have hbad := badByte_of_readChar (hreason (d := .invalidContinuation) hd)
    rw [hstop, hstart, Nat.add_assoc, take_encode_append text a rest hpositive,
      take_encode_append text a rest (Nat.succ_pos length)]
    exact ⟨extendable_of_ill hbad.before text, not_extendable_of_ill hbad.bad (by decide) text⟩

end StreamRequest.Utf8
