/-
Changing the case of ASCII letters, in bytes before they are read and in a text
before it is put into lower case.

Bytes beyond ASCII have no case, so bytes in lower case are read as they were
before, letter for letter, and fail where they failed before
(`decode_map_toAsciiLower`). The lower case of a text does not see the change at
all (`lowerFrom_map_toLower`): a letter and its capital have one lower case, and
to a sigma beside it the one is as good a letter as the other.
-/
import StreamRequest.Proofs.Text.AsciiCase

namespace StreamRequest

/-! ## Characters -/

namespace Utf8

theorem toNat_toLower (c : Char) :
    c.toLower.toNat = if 0x41 ≤ c.toNat ∧ c.toNat ≤ 0x5A then c.toNat + 32 else c.toNat := by
  have hrange : (c.val ≥ 'A'.val ∧ c.val ≤ 'Z'.val) ↔ 0x41 ≤ c.toNat ∧ c.toNat ≤ 0x5A := Iff.rfl
  unfold Char.toLower
  split
  · rename_i h
    have hu := hrange.1 h
    rw [if_pos hu]
    show (c.val + 32).toNat = c.toNat + 32
    rw [UInt32.toNat_add]
    exact Nat.mod_eq_of_lt (by show c.toNat + 32 < 2 ^ 32; omega)
  · rename_i h
    rw [if_neg fun hu => h (hrange.2 hu)]

theorem toLower_of_not_capital {c : Char} (h : ¬(0x41 ≤ c.toNat ∧ c.toNat ≤ 0x5A)) :
    c.toLower = c := by
  rw [← Char.ofNat_toNat c.toLower, toNat_toLower, if_neg h, Char.ofNat_toNat]

theorem toLower_asciiChar {b : UInt8} (h : b.toNat < 0x80) :
    (asciiChar b).toLower = asciiChar b.toAsciiLower := by
  rw [← Char.ofNat_toNat (asciiChar b).toLower, toNat_toLower, toNat_asciiChar h, asciiChar,
    Bytes.toNat_toAsciiLower]

theorem toAsciiLower_of_le {b : UInt8} (h : 0x80 ≤ b.toNat) : b.toAsciiLower = b := by
  rw [← UInt8.toNat_inj, Bytes.toNat_toAsciiLower, if_neg (by omega)]

/-! ## Reading bytes in lower case -/

@[simp] theorem isTrail_toAsciiLower (b : UInt8) : isTrail b.toAsciiLower = isTrail b := by
  by_cases h : 0x80 ≤ b.toNat
  · rw [toAsciiLower_of_le h]
  · have hl := Bytes.toAsciiLower_lt_iff b
    rw [Bool.eq_iff_iff, isTrail_iff, isTrail_iff]
    omega

@[simp] theorem isSecond_toAsciiLower (a b : UInt8) : isSecond a b.toAsciiLower = isSecond a b := by
  by_cases h : 0x80 ≤ b.toNat
  · rw [toAsciiLower_of_le h]
  · have hl := Bytes.toAsciiLower_lt_iff b
    rw [Bool.eq_iff_iff, isSecond_iff, isSecond_iff]
    omega

theorem toAsciiLower_of_isTrail {b : UInt8} (h : isTrail b = true) : b.toAsciiLower = b :=
  toAsciiLower_of_le (isTrail_iff.1 h).1

theorem toAsciiLower_of_isSecond {a b : UInt8} (h : isSecond a b = true) : b.toAsciiLower = b :=
  toAsciiLower_of_le (isSecond_iff.1 h).1.1

theorem readTwo_map_toAsciiLower (a : UInt8) (rest : Bytes) :
    readTwo a (rest.map UInt8.toAsciiLower) = readTwo a rest := by
  match rest with
  | [] => rfl
  | b :: _ =>
    simp only [List.map_cons, readTwo, isSecond_toAsciiLower]
    split
    · rename_i hs
      rw [toAsciiLower_of_isSecond hs]
    · rfl

theorem readThree_map_toAsciiLower (a : UInt8) (rest : Bytes) :
    readThree a (rest.map UInt8.toAsciiLower) = readThree a rest := by
  match rest with
  | [] => rfl
  | [b] => simp [readThree]
  | b :: c :: _ =>
    simp only [List.map_cons, readThree, isSecond_toAsciiLower, isTrail_toAsciiLower]
    split
    · rename_i hs
      split
      · rename_i ht
        rw [toAsciiLower_of_isSecond hs, toAsciiLower_of_isTrail ht]
      · rfl
    · rfl

theorem readFour_map_toAsciiLower (a : UInt8) (rest : Bytes) :
    readFour a (rest.map UInt8.toAsciiLower) = readFour a rest := by
  match rest with
  | [] => rfl
  | [b] => simp [readFour]
  | [b, c] => simp [readFour]
  | b :: c :: d :: _ =>
    simp only [List.map_cons, readFour, isSecond_toAsciiLower, isTrail_toAsciiLower]
    split
    · rename_i hs
      split
      · rename_i ht
        split
        · rename_i hu
          rw [toAsciiLower_of_isSecond hs, toAsciiLower_of_isTrail ht, toAsciiLower_of_isTrail hu]
        · rfl
      · rfl
    · rfl

/-- What stands at the head of some bytes, with its character in lower case. -/
def Reading.inLower : Reading → Reading
  | .char c width => .char c.toLower width
  | .ill defect length => .ill defect length

theorem Reading.inLower_of_le {a : UInt8} {rest : Bytes} (h : 0x80 ≤ a.toNat) :
    (readChar a rest).inLower = readChar a rest := by
  cases hr : readChar a rest with
  | ill defect length => rfl
  | char c width =>
    obtain ⟨tail, more, -, he, -⟩ := encodeChar_of_readChar hr
    have hc : ¬(0x41 ≤ c.toNat ∧ c.toNat ≤ 0x5A) := by
      intro hu
      rw [encodeChar_ascii (by omega)] at he
      have := toNat_byte (n := c.toNat) (by omega)
      rw [(List.cons.inj he).1] at this
      omega
    exact congrArg (Reading.char · width) (toLower_of_not_capital hc)

/-- The head of bytes in lower case is read as before, in lower case. -/
theorem readChar_map_toAsciiLower (a : UInt8) (rest : Bytes) :
    readChar a.toAsciiLower (rest.map UInt8.toAsciiLower) = (readChar a rest).inLower := by
  by_cases h : a.toNat < 0x80
  · have hl := (Bytes.toAsciiLower_lt_iff a).2 h
    rw [readChar, if_pos hl, readChar, if_pos h]
    exact congrArg (Reading.char · 1) (toLower_asciiChar h).symm
  · rw [toAsciiLower_of_le (by omega), Reading.inLower_of_le (by omega)]
    simp only [readChar, readTwo_map_toAsciiLower, readThree_map_toAsciiLower,
      readFour_map_toAsciiLower]

theorem decodeFrom_map_toAsciiLower (skip position : Nat) (data : Bytes) :
    decodeFrom skip position (data.map UInt8.toAsciiLower) =
      (decodeFrom skip position data).map (List.map Char.toLower) := by
  induction data generalizing skip position with
  | nil => rfl
  | cons a rest ih =>
    cases skip with
    | succ more => exact ih more (position + 1)
    | zero =>
      simp only [List.map_cons, decodeFrom, readChar_map_toAsciiLower]
      cases readChar a rest with
      | ill defect length => rfl
      | char c width =>
        simp only [Reading.inLower, ih]
        cases decodeFrom (width - 1) (position + 1) rest <;> rfl

/-- **Bytes in lower case** are read as the same text in lower case, or have the same fault. -/
theorem decode_map_toAsciiLower (data : Bytes) :
    decode (data.map UInt8.toAsciiLower) = (decode data).map (List.map Char.toLower) :=
  decodeFrom_map_toAsciiLower 0 0 data

end Utf8

/-! ## The lower case of a text in lower case -/

namespace Casing

open Utf8 (toLower_of_not_capital)

/-- What does not tell a letter of the alphabet from its capital, tells no character from the same
in lower case. -/
theorem apply_toLower {α : Type} {f : Char → α}
    (h : ∀ n < 26, f (.ofNat (0x61 + n)) = f (.ofNat (0x41 + n))) (c : Char) :
    f c.toLower = f c := by
  by_cases hu : 0x41 ≤ c.toNat ∧ c.toNat ≤ 0x5A
  · have hletter := h (c.toNat - 0x41) (by omega)
    have hsmall : 0x61 + (c.toNat - 0x41) = c.toLower.toNat := by
      rw [Utf8.toNat_toLower, if_pos hu]
      omega
    rwa [hsmall, Nat.add_sub_cancel' hu.1, Char.ofNat_toNat, Char.ofNat_toNat] at hletter
  · rw [toLower_of_not_capital hu]

@[simp] theorem lowerChar_toLower (c : Char) : lowerChar c.toLower = lowerChar c :=
  apply_toLower (by decide) c

@[simp] theorem isIgnorable_toLower (c : Char) : isIgnorable c.toLower = isIgnorable c :=
  apply_toLower (by decide) c

@[simp] theorem isCased_toLower (c : Char) : isCased c.toLower = isCased c :=
  apply_toLower (by decide) c

theorem toLower_eq_sigma_iff (c : Char) : c.toLower = 'Σ' ↔ c = 'Σ' :=
  decide_eq_decide.1 (apply_toLower (f := fun c => decide (c = 'Σ')) (by decide) c)

theorem beginsCased_map_toLower (text : List Char) :
    beginsCased (text.map Char.toLower) = beginsCased text := by
  have hp : isIgnorable ∘ Char.toLower = isIgnorable := funext isIgnorable_toLower
  unfold beginsCased
  rw [List.dropWhile_map, hp]
  cases text.dropWhile isIgnorable with
  | nil => rfl
  | cons c _ => exact isCased_toLower c

/-- The lower case of a text does not depend on the case of its ASCII letters. -/
theorem lowerFrom_map_toLower (behind : Bool) (text : List Char) :
    lowerFrom behind (text.map Char.toLower) = lowerFrom behind text := by
  induction text generalizing behind with
  | nil => rfl
  | cons c rest ih =>
    simp only [List.map_cons, lowerFrom, toLower_eq_sigma_iff, lowerChar_toLower,
      isIgnorable_toLower, isCased_toLower, beginsCased_map_toLower, ih]

end Casing

end StreamRequest
