/-
Bytes that differ only in the case of ASCII letters.

`Bytes.SameButCase` is the relation, said of bytes alone. For bytes of ASCII
the lower case of the text is the bytes with each letter in lower case
(`lower_ascii`): after its first run the case table begins beyond ASCII
(`shift_lowerRuns_ascii`).

The other way about, one character beyond ASCII has a lower case in ASCII, the
Kelvin sign. So what becomes ASCII without a `k` has been ASCII
(`ascii_of_lowerFrom`); that one fact is read off the whole case table
(`lowerRuns_beyond`).
-/
import StreamRequest.Proofs.Text.Ascii
import StreamRequest.Text.Casing

namespace StreamRequest

namespace Bytes

/-- Two sequences of bytes are the same, or would be with every ASCII letter in lower case. -/
def SameButCase (a b : Bytes) : Prop :=
  a.map UInt8.toAsciiLower = b.map UInt8.toAsciiLower

instance (a b : Bytes) : Decidable (SameButCase a b) :=
  inferInstanceAs (Decidable (_ = _))

theorem SameButCase.refl (a : Bytes) : SameButCase a a := rfl

theorem SameButCase.symm {a b : Bytes} (h : SameButCase a b) : SameButCase b a :=
  Eq.symm h

theorem SameButCase.trans {a b c : Bytes} (hab : SameButCase a b) (hbc : SameButCase b c) :
    SameButCase a c :=
  Eq.trans hab hbc

theorem forall_of_lt {P : UInt8 → Prop} (h : ∀ n < 256, P (.ofNat n)) (b : UInt8) : P b := by
  have := h b.toNat b.toNat_lt
  rwa [UInt8.ofNat_toNat] at this

theorem toNat_toAsciiLower (b : UInt8) :
    b.toAsciiLower.toNat = if 0x41 ≤ b.toNat ∧ b.toNat ≤ 0x5A then b.toNat + 32 else b.toNat :=
  forall_of_lt
    (P := fun b => b.toAsciiLower.toNat =
      if 0x41 ≤ b.toNat ∧ b.toNat ≤ 0x5A then b.toNat + 32 else b.toNat)
    (by decide +kernel) b

theorem toAsciiLower_lt_iff (b : UInt8) : b.toAsciiLower.toNat < 0x80 ↔ b.toNat < 0x80 := by
  rw [toNat_toAsciiLower]
  split <;> omega

theorem SameButCase.ascii {a b : Bytes} (h : SameButCase a b) (hb : ∀ x ∈ b, x.toNat < 0x80) :
    ∀ x ∈ a, x.toNat < 0x80 := by
  intro x hx
  have hm : x.toAsciiLower ∈ b.map UInt8.toAsciiLower := by
    rw [← h]
    exact List.mem_map_of_mem hx
  obtain ⟨y, hy, e⟩ := List.mem_map.1 hm
  rw [← toAsciiLower_lt_iff, ← e]
  exact (toAsciiLower_lt_iff y).2 (hb y hy)

end Bytes

namespace Casing

open CaseTable
open Utf8 (asciiChar)

/-- Of ASCII only the first run is looked at, if the others begin beyond it. -/
theorem shift_cons_of_lt {run : CaseRun} {others : List CaseRun} {n : Nat} (h : n < 0x80)
    (ho : ∀ other ∈ others, 0x80 ≤ other.first) :
    shift (run :: others) n = if run.covers n then run.shift else 0 := by
  have hn : others.find? (·.covers n) = none := by
    rw [List.find?_eq_none]
    intro other hother hc
    have := ho other hother
    simp only [CaseRun.covers, Bool.and_eq_true, decide_eq_true_eq] at hc
    omega
  rw [shift, List.find?_cons, hn]
  cases run.covers n <;> rfl

/-- Of the characters of ASCII the table changes the capitals. -/
theorem shift_lowerRuns_ascii {n : Nat} (h : n < 0x80) :
    shift lowerRuns n = if 0x41 ≤ n ∧ n ≤ 0x5A then 32 else 0 := by
  obtain ⟨others, hr, ho⟩ : ∃ others, lowerRuns = ⟨0x41, 0x5A, 1, 32⟩ :: others ∧
      ∀ run ∈ others, 0x80 ≤ run.first := ⟨_, rfl, by decide +kernel⟩
  have hc : CaseRun.covers ⟨0x41, 0x5A, 1, 32⟩ n = true ↔ 0x41 ≤ n ∧ n ≤ 0x5A := by
    simp [CaseRun.covers, Nat.mod_one]
  rw [hr, shift_cons_of_lt h ho]
  simp only [hc]

theorem lowerChar_ascii {b : UInt8} (h : b.toNat < 0x80) :
    lowerChar (asciiChar b) = [asciiChar b.toAsciiLower] := by
  have hl : lowerExpansions.lookup b.toNat = none := by
    have hne : (b.toNat == 0x130) = false := beq_false_of_ne (by omega)
    rw [lowerExpansions, List.lookup_cons, hne]
    rfl
  rw [lowerChar, mapChar, Utf8.toNat_asciiChar h, hl, shift_lowerRuns_ascii h, asciiChar,
    Bytes.toNat_toAsciiLower]
  by_cases hu : 0x41 ≤ b.toNat ∧ b.toNat ≤ 0x5A
  · simp only [if_pos hu]
    rfl
  · simp only [if_neg hu, Int.add_zero, Int.toNat_natCast]

theorem lowerFrom_ascii {data : Bytes} (h : ∀ b ∈ data, b.toNat < 0x80) (behind : Bool) :
    lowerFrom behind (data.map asciiChar) = (data.map UInt8.toAsciiLower).map asciiChar := by
  induction data generalizing behind with
  | nil => rfl
  | cons b rest ih =>
    have hb : b.toNat < 0x80 := h b List.mem_cons_self
    have hne : asciiChar b ≠ 'Σ' := by
      intro e
      have hn := Utf8.toNat_asciiChar hb
      rw [e] at hn
      have : 'Σ'.toNat = 0x3A3 := rfl
      omega
    rw [List.map_cons, lowerFrom, ih fun x hx => h x (List.mem_cons_of_mem _ hx)]
    simp only [hne, if_false, lowerChar_ascii hb]
    rfl

theorem lower_ascii {data : Bytes} (h : ∀ b ∈ data, b.toNat < 0x80) :
    lower (.ofList (data.map asciiChar)) =
      .ofList ((data.map UInt8.toAsciiLower).map asciiChar) := by
  rw [lower, String.toList_ofList, lowerFrom_ascii h]

/-! ## What becomes ASCII -/

/-- A run stays within ASCII, is the Kelvin sign, or leads to characters beyond ASCII. -/
theorem lowerRuns_beyond : ∀ run ∈ lowerRuns,
    run.last < 0x80 ∨ run = ⟨0x212A, 0x212A, 1, -8383⟩ ∨
      0x80 ≤ run.first + run.shift ∧
        (run.last + run.shift < 0xD800 ∨
          0xDFFF < run.first + run.shift ∧ run.last + run.shift < 0x110000) := by
  decide +kernel

theorem ascii_of_lowerChar {c : Char} (h : ∀ d ∈ lowerChar c, d.toNat < 0x80 ∧ d ≠ 'k') :
    c.toNat < 0x80 := by
  unfold lowerChar mapChar at h
  by_cases he : c.toNat = 0x130
  · have hd := (h (.ofNat 0x307) (by rw [he]; decide)).1
    exact absurd hd (by decide)
  have hl : lowerExpansions.lookup c.toNat = none := by
    rw [lowerExpansions, List.lookup_cons, beq_false_of_ne he]
    rfl
  simp only [hl, List.mem_singleton, forall_eq] at h
  unfold shift at h
  split at h
  · rename_i run hrun
    have hcov := List.find?_some hrun
    simp only [CaseRun.covers, Bool.and_eq_true, decide_eq_true_eq] at hcov
    rcases lowerRuns_beyond run (List.mem_of_find?_eq_some hrun) with hlast | rfl | ⟨hlow, hvalid⟩
    · omega
    · have hn : c.toNat = 0x212A := Nat.le_antisymm hcov.1.2 hcov.1.1
      rw [hn] at h
      exact absurd rfl h.2
    · have hto := Utf8.toNat_ofNat (n := (c.toNat + run.shift).toNat) (by omega)
      omega
  · rw [Int.add_zero, Int.toNat_natCast, Char.ofNat_toNat] at h
    exact h.1

theorem ascii_of_lowerFrom {behind : Bool} {text : List Char}
    (h : ∀ d ∈ lowerFrom behind text, d.toNat < 0x80 ∧ d ≠ 'k') : ∀ c ∈ text, c.toNat < 0x80 := by
  induction text generalizing behind with
  | nil =>
    intro c hc
    cases hc
  | cons c rest ih =>
    simp only [lowerFrom, List.mem_append] at h
    have hrest := ih fun d hd => h d (.inr hd)
    have hc : c.toNat < 0x80 := by
      by_cases hs : c = 'Σ'
      · -- Neither form of the small sigma is ASCII.
        simp only [if_pos hs, List.mem_singleton] at h
        refine absurd (h _ (.inl rfl)).1 ?_
        split <;> decide
      · simp only [if_neg hs] at h
        exact ascii_of_lowerChar fun d hd => h d (.inl hd)
    intro d hd
    rcases List.mem_cons.1 hd with rfl | hd
    · exact hc
    · exact hrest d hd

end Casing

end StreamRequest
