/-
Integers as decimal text.

What is written has no leading zero and no plus sign. What is read may have
both; the reader takes the number of digits it accepts as a parameter, and
counts every digit, leading zeros included, but not the sign.
-/
namespace StreamRequest.Decimal

/-- The digits of a number. -/
def ofNat (n : Nat) : List Char :=
  Nat.toDigits 10 n

/-- The digits of an integer, behind a minus sign if it is negative. -/
def ofInt : Int → List Char
  | .ofNat n => ofNat n
  | .negSucc n => '-' :: ofNat (n + 1)

/-- A number as decimal text. -/
def natText (n : Nat) : String :=
  .ofList (ofNat n)

/-- An integer as decimal text. -/
def intText (i : Int) : String :=
  .ofList (ofInt i)

/-- The number that at least one and at most `limit` ASCII digits denote. -/
def readNat? (limit : Nat) (digits : List Char) : Option Nat :=
  if digits ≠ [] ∧ digits.all Char.isDigit ∧ digits.length ≤ limit then
    some (Nat.ofDigitChars 10 digits 0)
  else
    none

/-- The integer that one optional sign and at most `limit` digits denote. -/
def readInt? (limit : Nat) : List Char → Option Int
  | '-' :: digits => (readNat? limit digits).map fun n => -(n : Int)
  | '+' :: digits => (readNat? limit digits).map Int.ofNat
  | digits => (readNat? limit digits).map Int.ofNat

theorem readNat?_ofNat {limit n : Nat} (h : (ofNat n).length ≤ limit) :
    readNat? limit (ofNat n) = some n := by
  have hne : ofNat n ≠ [] := Nat.toDigits_ne_nil
  have hall : (ofNat n).all Char.isDigit = true :=
    List.all_eq_true.2 fun c hc => Nat.isDigit_of_mem_toDigits (by decide) (by decide) hc
  simp only [readNat?, hne, hall, h, ne_eq, not_false_eq_true, and_self, if_true]
  exact congrArg some Nat.ofDigitChars_ten_toDigits

end StreamRequest.Decimal
