/-
Written integers: they differ where the integers do, they are ASCII and on one
line, they come off the front of a text where no digit follows them
(`ofInt_cancel`), and the reader reads each of them back, as long as it accepts
that many digits (`readInt?_ofInt`).
-/
import StreamRequest.Text.Decimal

namespace StreamRequest.Decimal

/-! ## Characters -/

theorem isDigit_of_mem_ofNat {n : Nat} {c : Char} (h : c ∈ ofNat n) : c.isDigit = true :=
  Nat.isDigit_of_mem_toDigits (by decide) (by decide) h

theorem toNat_of_isDigit {c : Char} (h : c.isDigit = true) : 0x30 ≤ c.toNat ∧ c.toNat ≤ 0x39 := by
  simp only [Char.isDigit, Bool.and_eq_true, decide_eq_true_eq, UInt32.le_iff_toNat_le] at h
  exact h

theorem mem_ofInt {i : Int} {c : Char} (h : c ∈ ofInt i) : c = '-' ∨ c.isDigit = true := by
  cases i with
  | ofNat n => exact .inr (isDigit_of_mem_ofNat h)
  | negSucc n =>
    rcases List.mem_cons.1 h with rfl | h
    · exact .inl rfl
    · exact .inr (isDigit_of_mem_ofNat h)

theorem not_mem_ofNat {n : Nat} {c : Char} (hc : c.isDigit = false) : c ∉ ofNat n := by
  intro h
  rw [isDigit_of_mem_ofNat h] at hc
  exact Bool.noConfusion hc

theorem not_mem_ofInt {i : Int} {c : Char} (hm : c ≠ '-') (hc : c.isDigit = false) :
    c ∉ ofInt i := by
  intro h
  rcases mem_ofInt h with h | h
  · exact hm h
  · rw [h] at hc
    exact Bool.noConfusion hc

/-! ## Numbers that differ -/

theorem ofNat_injective {m n : Nat} (h : ofNat m = ofNat n) : m = n := by
  have e : Nat.ofDigitChars 10 (ofNat m) 0 = Nat.ofDigitChars 10 (ofNat n) 0 := by rw [h]
  rwa [ofNat, ofNat, Nat.ofDigitChars_ten_toDigits, Nat.ofDigitChars_ten_toDigits] at e

theorem ofNat_ne_cons (n : Nat) {c : Char} (hc : c.isDigit = false) (rest : List Char) :
    ofNat n ≠ c :: rest := by
  intro h
  exact not_mem_ofNat hc (h ▸ List.mem_cons_self)

theorem ofInt_injective {i j : Int} (h : ofInt i = ofInt j) : i = j := by
  cases i with
  | ofNat m =>
    cases j with
    | ofNat n => exact congrArg Int.ofNat (ofNat_injective h)
    | negSucc n => exact absurd h (ofNat_ne_cons m (by decide) _)
  | negSucc m =>
    cases j with
    | ofNat n => exact absurd h.symm (ofNat_ne_cons n (by decide) _)
    | negSucc n =>
      have := ofNat_injective (List.cons.inj h).2
      exact congrArg Int.negSucc (by omega)

theorem natText_inj {m n : Nat} : natText m = natText n ↔ m = n :=
  ⟨fun h => ofNat_injective (String.ofList_injective h), fun h => h ▸ rfl⟩

theorem intText_inj {i j : Int} : intText i = intText j ↔ i = j :=
  ⟨fun h => ofInt_injective (String.ofList_injective h), fun h => h ▸ rfl⟩

/-! ## Numbers off the front of a text -/

/-- No digit stands at the head of a text, so a number before it is at its end. -/
def EndsNumber (rest : List Char) : Prop :=
  ∀ c ∈ rest.head?, c.isDigit = false

theorem EndsNumber.cons {c : Char} (h : c.isDigit = false) (rest : List Char) :
    EndsNumber (c :: rest) := by
  intro d hd
  obtain rfl := Option.some.inj hd
  exact h

theorem EndsNumber.takeWhile {rest : List Char} (h : EndsNumber rest) :
    rest.takeWhile Char.isDigit = [] := by
  cases rest with
  | nil => rfl
  | cons c rest => rw [List.takeWhile_cons, h c rfl, if_neg Bool.false_ne_true]

theorem ofNat_cancel {m n : Nat} {a b : List Char} (ha : EndsNumber a) (hb : EndsNumber b)
    (h : ofNat m ++ a = ofNat n ++ b) : m = n ∧ a = b := by
  have digits : ∀ {k : Nat} {rest : List Char}, EndsNumber rest →
      (ofNat k ++ rest).takeWhile Char.isDigit = ofNat k := by
    intro k rest hr
    rw [List.takeWhile_append_of_pos fun _ hc => isDigit_of_mem_ofNat hc, hr.takeWhile,
      List.append_nil]
  have hmn : ofNat m = ofNat n := by
    rw [← digits (k := m) ha, h, digits hb]
  rw [hmn] at h
  exact ⟨ofNat_injective hmn, List.append_cancel_left h⟩

theorem ofNat_append_ne_cons {n : Nat} {c : Char} (hc : c.isDigit = false) (a b : List Char) :
    ofNat n ++ a ≠ c :: b := by
  intro h
  have hne : ofNat n ≠ [] := Nat.toDigits_ne_nil
  obtain ⟨d, rest, hd⟩ := List.exists_cons_of_ne_nil hne
  rw [hd, List.cons_append] at h
  exact ofNat_ne_cons n hc rest ((List.cons.inj h).1 ▸ hd)

theorem ofInt_cancel {i j : Int} {a b : List Char} (ha : EndsNumber a) (hb : EndsNumber b)
    (h : ofInt i ++ a = ofInt j ++ b) : i = j ∧ a = b := by
  cases i with
  | ofNat m =>
    cases j with
    | ofNat n =>
      obtain ⟨rfl, rfl⟩ := ofNat_cancel ha hb h
      exact ⟨rfl, rfl⟩
    | negSucc n => exact absurd h (ofNat_append_ne_cons (by decide) a _)
  | negSucc m =>
    cases j with
    | ofNat n => exact absurd h.symm (ofNat_append_ne_cons (by decide) b _)
    | negSucc n =>
      obtain ⟨hmn, rfl⟩ := ofNat_cancel ha hb (List.cons.inj h).2
      exact ⟨congrArg Int.negSucc (by omega), rfl⟩

/-! ## Reading -/

theorem readInt?_of_unsigned {limit : Nat} {text : List Char} (hm : ∀ digits, text ≠ '-' :: digits)
    (hp : ∀ digits, text ≠ '+' :: digits) :
    readInt? limit text = (readNat? limit text).map Int.ofNat := by
  unfold readInt?
  split
  · exact absurd rfl (hm _)
  · exact absurd rfl (hp _)
  · rfl

theorem readInt?_ofInt {limit : Nat} {i : Int} (h : (ofNat i.natAbs).length ≤ limit) :
    readInt? limit (ofInt i) = some i := by
  cases i with
  | ofNat n =>
    have hn : readNat? limit (ofNat n) = some n := readNat?_ofNat h
    show readInt? limit (ofNat n) = _
    rw [readInt?_of_unsigned (ofNat_ne_cons n (by decide)) (ofNat_ne_cons n (by decide)), hn]
    rfl
  | negSucc n =>
    have hn : readNat? limit (ofNat (n + 1)) = some (n + 1) := readNat?_ofNat h
    rw [ofInt, readInt?, hn]
    rfl

end StreamRequest.Decimal
