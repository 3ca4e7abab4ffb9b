/-
Undoing the escapes of a line gives the bytes back.

Whether apostrophes are escaped depends on all of the data, but the reader need
not know: an apostrophe is read the same with a backslash and without. So the
lemmas are about one byte, for either way of writing it (`unescape_escapeByte`,
`isPlain_of_mem_escapeByte`), and the whole follows byte by byte.

A number that is written in a fixed number of digits is told from them, if it has no
more (`number_fixed`).
-/
import Mathlib.Algebra.Group.Nat.Defs
import StreamRequest.Text.EscapedBytes
import StreamRequest.Text.Utf8.RoundTrip

namespace StreamRequest

namespace EscapedBytes

/-- A printable character of ASCII. -/
def IsPlain (c : Char) : Prop := 0x20 ≤ c.toNat ∧ c.toNat ≤ 0x7E

instance (c : Char) : Decidable (IsPlain c) :=
  inferInstanceAs (Decidable (_ ∧ _))

/-! ## One byte -/

theorem unescape_cons {c : Char} (hc : c ≠ '\\') (rest : List Char) :
    unescape (c :: rest) = (unescape rest).map (byteOf c :: ·) := by
  conv =>
    lhs
    unfold unescape
  split <;> simp_all

theorem value?_byteOf_digit (n : Nat) :
    Hexadecimal.value? (byteOf (Hexadecimal.digit n)) = some (n % 16) := by
  have all : ∀ v < 16, Hexadecimal.value? (byteOf (Nat.digitChar v)) = some v := by decide
  exact all (n % 16) (Nat.mod_lt n (by decide))

theorem fixed_two (n : Nat) :
    Hexadecimal.fixed 2 n = [Hexadecimal.digit (n / 16), Hexadecimal.digit n] := rfl

theorem unescape_hex (b : UInt8) (rest : List Char) :
    unescape ('\\' :: 'x' :: Hexadecimal.fixed 2 b.toNat ++ rest) =
      (unescape rest).map (b :: ·) := by
  have hb := b.toNat_lt
  have hpair : Hexadecimal.pair (b.toNat / 16 % 16) (b.toNat % 16) = b := by
    rw [Nat.mod_eq_of_lt (by omega), Hexadecimal.pair, Nat.div_add_mod', UInt8.ofNat_toNat]
  simp only [fixed_two, List.cons_append, List.nil_append, unescape, value?_byteOf_digit, hpair]

/-- However a byte is written, it is read back, and reading goes on behind it. -/
theorem unescape_escapeByte (escaping : Bool) (b : UInt8) (rest : List Char) :
    unescape (escapeByte escaping b ++ rest) = (unescape rest).map (b :: ·) := by
  unfold escapeByte
  split
  · rename_i h
    rw [h]
    rfl
  split
  · rename_i h
    rw [h.1]
    rfl
  split
  · rename_i h
    rw [h]
    rfl
  split
  · rename_i h
    rw [h]
    rfl
  split
  · rename_i h
    rw [h]
    rfl
  split
  · rename_i hs _ _ _ _ hp
    have hn : (Char.ofNat b.toNat).toNat = b.toNat := Utf8.toNat_ofNat (by omega)
    have hc : Char.ofNat b.toNat ≠ '\\' := by
      intro e
      rw [e] at hn
      exact hs (UInt8.toNat_inj.1 hn.symm)
    rw [List.singleton_append, unescape_cons hc, byteOf, hn, UInt8.ofNat_toNat]
  · exact unescape_hex b rest

theorem isPlain_digit (n : Nat) : IsPlain (Hexadecimal.digit n) := by
  have all : ∀ v < 16, IsPlain (Nat.digitChar v) := by decide
  exact all (n % 16) (Nat.mod_lt n (by decide))

theorem isPlain_of_mem_escapeByte {escaping : Bool} {b : UInt8} {c : Char}
    (h : c ∈ escapeByte escaping b) : IsPlain c := by
  have pair : ∀ d : Char, IsPlain d → c ∈ ['\\', d] → IsPlain c := by
    intro d hd hc
    rcases List.mem_cons.1 hc with rfl | hc
    · decide
    · rw [List.mem_singleton.1 hc]
      exact hd
  unfold escapeByte at h
  split at h
  · exact pair _ (by decide) h
  split at h
  · exact pair _ (by decide) h
  split at h
  · exact pair _ (by decide) h
  split at h
  · exact pair _ (by decide) h
  split at h
  · exact pair _ (by decide) h
  split at h
  · rename_i hp
    have hn : (Char.ofNat b.toNat).toNat = b.toNat := Utf8.toNat_ofNat (by omega)
    rw [List.mem_singleton.1 h, IsPlain, hn]
    omega
  · simp only [fixed_two, List.mem_cons, List.not_mem_nil, or_false] at h
    rcases h with rfl | rfl | rfl | rfl
    · decide
    · decide
    · exact isPlain_digit _
    · exact isPlain_digit _

/-! ## Whole lines -/

theorem unescape_flatMap (escaping : Bool) (data : Bytes) :
    unescape (data.flatMap (escapeByte escaping)) = some data := by
  induction data with
  | nil => rfl
  | cons b rest ih => rw [List.flatMap_cons, unescape_escapeByte, ih, Option.map_some]

/-- **Nothing is lost**: the escapes of a line undo. -/
@[simp] theorem unescape_escape (data : Bytes) : unescape (escape data) = some data :=
  unescape_flatMap _ data

theorem text_injective {a b : Bytes} (h : text a = text b) : a = b := by
  have hescape : escape a = escape b := by
    have := congrArg String.toList h
    rwa [text, text, String.toList_ofList, String.toList_ofList] at this
  have := unescape_escape a
  rw [hescape, unescape_escape] at this
  exact (Option.some.inj this).symm

theorem isPlain_of_mem_escape {data : Bytes} {c : Char} (h : c ∈ escape data) : IsPlain c := by
  obtain ⟨b, -, hc⟩ := List.mem_flatMap.1 h
  exact isPlain_of_mem_escapeByte hc

end EscapedBytes

/-! ## Numbers of a fixed width -/

namespace Hexadecimal

@[simp] theorem length_fixed (width n : Nat) : (fixed width n).length = width := by
  induction width generalizing n with
  | zero => rfl
  | succ width ih => rw [fixed, List.length_append, ih, List.length_singleton]

/-- The number that digits denote. -/
def number (digits : List Char) : Nat :=
  digits.foldl (fun n c => n * 16 + (value? (EscapedBytes.byteOf c)).getD 0) 0

theorem number_concat_digit (digits : List Char) (n : Nat) :
    number (digits ++ [digit n]) = number digits * 16 + n % 16 := by
  rw [number, List.foldl_append, List.foldl_cons, List.foldl_nil, EscapedBytes.value?_byteOf_digit]
  rfl

theorem number_fixed (width n : Nat) : number (fixed width n) = n % 16 ^ width := by
  induction width generalizing n with
  | zero => simp [number, fixed, Nat.mod_one]
  | succ width ih =>
    rw [fixed, number_concat_digit, ih, Nat.pow_succ, Nat.mul_comm (16 ^ width) 16, Nat.mod_mul]
    omega

end Hexadecimal

end StreamRequest
