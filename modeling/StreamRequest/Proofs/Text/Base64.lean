/-
Base 64 is read back.

The reader goes by the padding alone and takes four characters at a time, so
`decode_encode` follows the writer: a case for each length of the last group,
and the induction where another group follows.
-/
import StreamRequest.Text.Base64
import StreamRequest.Text.Utf8.RoundTrip

namespace StreamRequest.Base64

/-! ## Characters -/

/-- The value of a character of the alphabet; the padding counts as zero. -/
def value (c : Char) : Nat :=
  let n := c.toNat
  if 0x41 ≤ n ∧ n ≤ 0x5A then n - 0x41
  else if 0x61 ≤ n ∧ n ≤ 0x7A then n - 0x61 + 26
  else if 0x30 ≤ n ∧ n ≤ 0x39 then n - 0x30 + 52
  else if c = '-' then 62
  else if c = '_' then 63
  else 0

@[simp] theorem value_digit {v : Nat} (h : v < 64) : value (digit v) = v := by
  have all : ∀ w < 64, value (digit w) = w := by decide
  exact all v h

theorem digit_ne_padding {v : Nat} (h : v < 64) : digit v ≠ '=' := by
  have all : ∀ w < 64, digit w ≠ '=' := by decide
  exact all v h

/-! ## Groups -/

/-- The bytes that groups of four characters stand for. Padding ends them. -/
def decode : List Char → Bytes
  | a :: b :: c :: d :: rest =>
    let n := ((value a * 64 + value b) * 64 + value c) * 64 + value d
    if c = '=' then [.ofNat (n / 65536)]
    else if d = '=' then [.ofNat (n / 65536), .ofNat (n / 256 % 256)]
    else .ofNat (n / 65536) :: .ofNat (n / 256 % 256) :: .ofNat (n % 256) :: decode rest
  | _ => []

/-- **Nothing is lost**: what is written in base 64 reads back. -/
@[simp] theorem decode_encode : ∀ data : Bytes, decode (encode data) = data
  | [] => rfl
  | [a] => by
    have ha := a.toNat_lt
    have hp : value '=' = 0 := by decide
    simp only [encode, decode, if_true]
    rw [value_digit (by omega), value_digit (by omega), Utf8.byte_eq (b := a) (by omega)]
  | [a, b] => by
    have ha := a.toNat_lt
    have hb := b.toNat_lt
    have hp : value '=' = 0 := by decide
    simp only [encode, decode, if_true, digit_ne_padding (Nat.mod_lt _ (by decide : 0 < 64)),
      if_false]
    rw [value_digit (by omega), value_digit (by omega), value_digit (by omega),
      Utf8.byte_eq (b := a) (by omega), Utf8.byte_eq (b := b) (by omega)]
  | a :: b :: c :: rest => by
    have ha := a.toNat_lt
    have hb := b.toNat_lt
    have hc := c.toNat_lt
    simp only [encode, decode, digit_ne_padding (Nat.mod_lt _ (by decide : 0 < 64)), if_false]
    rw [value_digit (by omega), value_digit (by omega), value_digit (by omega),
      value_digit (by omega), Utf8.byte_eq (b := a) (by omega), Utf8.byte_eq (b := b) (by omega),
      Utf8.byte_eq (b := c) (by omega), decode_encode rest]

theorem text_injective {a b : Bytes} (h : text a = text b) : a = b := by
  have hchars : encode a = encode b := String.ofList_injective h
  rw [← decode_encode a, hchars, decode_encode]

end StreamRequest.Base64
