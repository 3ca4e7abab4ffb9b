/-
Spellings of integers: one optional sign and decimal digits, as many as one
likes. The reader reads those with few enough digits, and nothing else
(`readInt?_eq`).
-/
import StreamRequest.Proofs.Text.Decimal

namespace StreamRequest.Decimal

/-- A sign and at least one digit. -/
structure Spelling where
  negative : Bool
  digits : List Char
  nonempty : digits ≠ []
  decimal : digits.all Char.isDigit = true

namespace Spelling

/-- The integer that a spelling denotes. -/
def integer (s : Spelling) : Int :=
  let n := Nat.ofDigitChars 10 s.digits 0
  if s.negative then -n else n

/-- Digits behind a sign. -/
def ofDigits? (negative : Bool) (digits : List Char) : Option Spelling :=
  if h : digits ≠ [] ∧ digits.all Char.isDigit = true then some ⟨negative, digits, h.1, h.2⟩
  else none

theorem ofDigits?_eq_some {negative : Bool} {digits : List Char} {s : Spelling}
    (h : ofDigits? negative digits = some s) : s.negative = negative ∧ s.digits = digits := by
  unfold ofDigits? at h
  split at h
  · obtain rfl := Option.some.inj h
    exact ⟨rfl, rfl⟩
  · cases h

/-- The spelling that a text is, if it is one from its first character to its last. -/
def ofText? : List Char → Option Spelling
  | '-' :: digits => ofDigits? true digits
  | '+' :: digits => ofDigits? false digits
  | digits => ofDigits? false digits

theorem ofText?_of_unsigned {text : List Char} (hm : ∀ digits, text ≠ '-' :: digits)
    (hp : ∀ digits, text ≠ '+' :: digits) : ofText? text = ofDigits? false text := by
  unfold ofText?
  split
  · exact absurd rfl (hm _)
  · exact absurd rfl (hp _)
  · rfl

end Spelling

theorem readNat?_eq (limit : Nat) (negative : Bool) (digits : List Char) :
    ((readNat? limit digits).map fun n : Nat => if negative then -(n : Int) else n) =
      (Spelling.ofDigits? negative digits).bind fun s =>
        if s.digits.length ≤ limit then some s.integer else none := by
  unfold readNat? Spelling.ofDigits?
  by_cases h : digits ≠ [] ∧ digits.all Char.isDigit = true
  · rw [dif_pos h]
    by_cases hl : digits.length ≤ limit
    · rw [if_pos ⟨h.1, h.2, hl⟩, Option.bind_some, if_pos hl]
      rfl
    · rw [if_neg fun hh => hl hh.2.2, Option.bind_some, if_neg hl]
      rfl
  · rw [dif_neg h, if_neg fun hh => h ⟨hh.1, hh.2.1⟩]
    rfl

/-- The reader takes a text as a spelling and then counts its digits. -/
theorem readInt?_eq (limit : Nat) (text : List Char) :
    readInt? limit text =
      (Spelling.ofText? text).bind fun s =>
        if s.digits.length ≤ limit then some s.integer else none := by
  by_cases hm : ∃ digits, text = '-' :: digits
  · obtain ⟨digits, rfl⟩ := hm
    rw [readInt?, Spelling.ofText?, ← readNat?_eq limit true digits]
    cases readNat? limit digits <;> rfl
  by_cases hp : ∃ digits, text = '+' :: digits
  · obtain ⟨digits, rfl⟩ := hp
    rw [readInt?, Spelling.ofText?, ← readNat?_eq limit false digits]
    cases readNat? limit digits <;> rfl
  have hm' : ∀ digits, text ≠ '-' :: digits := fun digits e => hm ⟨digits, e⟩
  have hp' : ∀ digits, text ≠ '+' :: digits := fun digits e => hp ⟨digits, e⟩
  rw [readInt?_of_unsigned hm' hp', Spelling.ofText?_of_unsigned hm' hp',
    ← readNat?_eq limit false text]
  cases readNat? limit text <;> rfl

end StreamRequest.Decimal
