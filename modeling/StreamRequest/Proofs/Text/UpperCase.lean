/-
Which texts have a given name for their upper case.

The upper case of a character is a single one of ASCII if the character is of ASCII
itself, or one of two letters beyond it, the dotless i and the long s
(`upperChar_of_plain`). That of any other is beyond ASCII, at least in part, or begins
with one of a few pairs of letters, as that of a ligature does; this is read off the
whole case table (`upperRuns_beyond`, `upperExpansions_beyond`). So a text becomes a
name without such a pair exactly if, its two letters replaced, it is the name but for
the case of its letters (`upper_eq_iff`).
-/
import StreamRequest.Proofs.Text.CaseChange

namespace StreamRequest

theorem mem_of_lookup {α β : Type} [BEq α] [LawfulBEq α] {table : List (α × β)} {key : α} {value : β}
    (h : table.lookup key = some value) : (key, value) ∈ table := by
  obtain ⟨before, after, he, -⟩ := List.lookup_eq_some_iff.1 h
  rw [he]
  exact List.mem_append_right before List.mem_cons_self

/-! ## Texts that differ in case -/

namespace Utf8

theorem map_toAsciiLower_ofText (text : String) :
    (ofText text).map UInt8.toAsciiLower = encode (text.toList.map Char.toLower) := by
  refine (decode_eq_ok_iff.1 ?_).symm
  rw [decode_map_toAsciiLower, ofText, decode_encode]
  rfl

theorem sameButCase_ofText_iff {s t : String} :
    Bytes.SameButCase (ofText s) (ofText t) ↔
      s.toList.map Char.toLower = t.toList.map Char.toLower := by
  rw [Bytes.SameButCase, map_toAsciiLower_ofText, map_toAsciiLower_ofText]
  exact ⟨encode_injective, congrArg encode⟩

theorem toLower_lt_iff (c : Char) : c.toLower.toNat < 0x80 ↔ c.toNat < 0x80 := by
  rw [toNat_toLower]
  split <;> omega

end Utf8

namespace Casing

open CaseTable
open Utf8 (ofText)

/-! ## Characters that become ASCII -/

/-- The letter of ASCII that has the same capital as a dotless i or a long s. -/
def plain (c : Char) : Char :=
  if c = 'ı' then 'i' else if c = 'ſ' then 's' else c

theorem forall_ascii {P : Char → Prop} (h : ∀ n < 0x80, P (.ofNat n)) {c : Char}
    (hc : c.toNat < 0x80) : P c := by
  have := h c.toNat hc
  rwa [Char.ofNat_toNat] at this

theorem toLower_toUpper {c : Char} (h : c.toNat < 0x80) : c.toUpper.toLower = c.toLower :=
  forall_ascii (P := fun c => c.toUpper.toLower = c.toLower) (by decide) h

theorem toUpper_toLower {c : Char} (h : c.toNat < 0x80) : c.toLower.toUpper = c.toUpper :=
  forall_ascii (P := fun c => c.toLower.toUpper = c.toUpper) (by decide) h

/-- Of the characters of ASCII the tables change the small letters, each into its capital. -/
theorem upperChar_ascii {c : Char} (h : c.toNat < 0x80) : upperChar c = [c.toUpper] := by
  obtain ⟨others, hr, ho⟩ : ∃ others, upperRuns = ⟨0x61, 0x7A, 1, -32⟩ :: others ∧
      ∀ run ∈ others, 0x80 ≤ run.first := ⟨_, rfl, by decide +kernel⟩
  have hkeys : ∀ entry ∈ upperExpansions, 0x80 ≤ entry.1 := by decide +kernel
  have hl : upperExpansions.lookup c.toNat = none := by
    refine List.lookup_eq_none_iff.2 fun entry he => bne_iff_ne.2 ?_
    have := hkeys entry he
    omega
  have capital : ∀ n < 0x80, Char.ofNat (n + if CaseRun.covers ⟨0x61, 0x7A, 1, -32⟩ n then -32
      else 0 : Int).toNat = (Char.ofNat n).toUpper := by decide
  have hc := capital c.toNat h
  rw [Char.ofNat_toNat] at hc
  rw [upperChar, mapChar, hl, hr, shift_cons_of_lt h ho]
  exact congrArg (fun d => [d]) hc

theorem upperChar_of_plain {c : Char} (h : (plain c).toNat < 0x80) :
    upperChar c = [(plain c).toUpper] := by
  unfold plain at h ⊢
  split
  · rename_i hi
    rw [hi]
    decide
  · rename_i hi
    rw [if_neg hi] at h
    split
    · rename_i hs
      rw [hs]
      decide
    · rename_i hs
      rw [if_neg hs] at h
      exact upperChar_ascii h

/-! ## Characters that do not -/

/-- The pairs of letters that the sharp s and the ligatures become, or that they begin with. -/
def pairs : List (List Char) :=
  [['S', 'S'], ['F', 'F'], ['F', 'I'], ['F', 'L'], ['S', 'T']]

/-- A run begins in ASCII, is one of the two letters, or leads to characters beyond ASCII. -/
theorem upperRuns_beyond : ∀ run ∈ upperRuns,
    run.last < 0x80 ∨ run = ⟨0x131, 0x131, 1, -232⟩ ∨ run = ⟨0x17F, 0x17F, 1, -300⟩ ∨
      0x80 ≤ run.first + run.shift ∧
        (run.last + run.shift < 0xD800 ∨
          0xDFFF < run.first + run.shift ∧ run.last + run.shift < 0x110000) := by
  decide +kernel

/-- What is more than one capital is not ASCII throughout, or begins with a pair. -/
theorem upperExpansions_beyond : ∀ entry ∈ upperExpansions,
    (∃ n ∈ entry.2, 0x80 ≤ (Char.ofNat n).toNat) ∨
      ∃ pair ∈ pairs, pair.isPrefixOf (entry.2.map Char.ofNat) = true := by
  decide +kernel

theorem beyond_of_plain {c : Char} (h : 0x80 ≤ (plain c).toNat) :
    c ≠ 'ı' ∧ c ≠ 'ſ' ∧ 0x80 ≤ c.toNat := by
  have hi : c ≠ 'ı' := by
    rintro rfl
    exact absurd h (by decide)
  have hs : c ≠ 'ſ' := by
    rintro rfl
    exact absurd h (by decide)
  rw [plain, if_neg hi, if_neg hs] at h
  exact ⟨hi, hs, h⟩

/-- No other character beyond ASCII is moved into it. -/
theorem shift_upperRuns_beyond {c : Char} (h : 0x80 ≤ (plain c).toNat) :
    0x80 ≤ (Char.ofNat (c.toNat + shift upperRuns c.toNat).toNat).toNat := by
  obtain ⟨hi, hs, hc⟩ := beyond_of_plain h
  unfold shift
  split
  · rename_i run hrun
    have hcov := List.find?_some hrun
    simp only [CaseRun.covers, Bool.and_eq_true, decide_eq_true_eq] at hcov
    rcases upperRuns_beyond run (List.mem_of_find?_eq_some hrun) with
      hlast | rfl | rfl | ⟨hlow, hvalid⟩
    · omega
    · have hn : c.toNat = 'ı'.toNat := Nat.le_antisymm hcov.1.2 hcov.1.1
      exact absurd (Char.toNat_inj.1 hn) hi
    · have hn : c.toNat = 'ſ'.toNat := Nat.le_antisymm hcov.1.2 hcov.1.1
      exact absurd (Char.toNat_inj.1 hn) hs
    · rw [Utf8.toNat_ofNat (by omega)]
      omega
  · rwa [Int.add_zero, Int.toNat_natCast, Char.ofNat_toNat]

theorem upperChar_beyond {c : Char} (h : 0x80 ≤ (plain c).toNat) :
    (∃ d ∈ upperChar c, 0x80 ≤ d.toNat) ∨
      ∃ pair ∈ pairs, pair.isPrefixOf (upperChar c) = true := by
  unfold upperChar mapChar
  split
  · rename_i numbers hn
    refine (upperExpansions_beyond _ (mem_of_lookup hn)).imp_left fun h => ?_
    obtain ⟨n, hm, hge⟩ := h
    exact ⟨.ofNat n, List.mem_map_of_mem hm, hge⟩
  · exact .inl ⟨_, List.mem_singleton_self _, shift_upperRuns_beyond h⟩

/-! ## Names -/

/-- A name in capitals of ASCII, in which none of the pairs stands. -/
structure Capitals (name : String) : Prop where
  capital : ∀ c ∈ name.toList, c.toNat < 0x80 ∧ c.toUpper = c
  noPair : ∀ n ≤ name.length, ∀ pair ∈ pairs, pair.isPrefixOf (name.toList.drop n) = false

instance (name : String) : Decidable (Capitals name) :=
  decidable_of_iff
    (name.toList.all (fun c => decide (c.toNat < 0x80 ∧ c.toUpper = c)) = true ∧
      ∀ n ≤ name.length, ∀ pair ∈ pairs, pair.isPrefixOf (name.toList.drop n) = false)
    ⟨fun h => ⟨fun c hc => of_decide_eq_true (List.all_eq_true.1 h.1 c hc), h.2⟩,
      fun h => ⟨List.all_eq_true.2 fun c hc => decide_eq_true (h.capital c hc), h.noPair⟩⟩

/-- A text with its dotless i and long s replaced by the letters of ASCII. -/
def plainText (text : String) : String :=
  .ofList (text.toList.map plain)

theorem flatMap_upperChar_of_plain {text : List Char} (h : ∀ c ∈ text, (plain c).toNat < 0x80) :
    text.flatMap upperChar = (text.map plain).map Char.toUpper := by
  induction text with
  | nil => rfl
  | cons c rest ih =>
    rw [List.flatMap_cons, upperChar_of_plain (h c List.mem_cons_self),
      ih fun d hd => h d (List.mem_cons_of_mem c hd)]
    rfl

/-- What becomes a name is ASCII, but for the two letters. -/
theorem plain_of_upper {name text : String} (hn : Capitals name) (h : upper text = name) :
    ∀ c ∈ text.toList, (plain c).toNat < 0x80 := by
  intro c hc
  have hpart : upperChar c <:+: name.toList := by
    rw [← h, upper, String.toList_ofList, List.flatMap_def]
    exact List.infix_of_mem_flatten (List.mem_map_of_mem hc)
  refine Nat.lt_of_not_le fun hbeyond => ?_
  rcases upperChar_beyond hbeyond with ⟨d, hd, hge⟩ | ⟨pair, hp, hbegins⟩
  · exact absurd (hn.capital d (hpart.subset hd)).1 (Nat.not_lt.2 hge)
  · obtain ⟨before, after, he⟩ := hpart
    have hlength : before.length ≤ name.length := by
      rw [← String.length_toList, ← he, List.append_assoc, List.length_append]
      exact Nat.le_add_right _ _
    have hthere : pair <+: name.toList.drop before.length := by
      rw [← he, List.append_assoc, List.drop_left]
      exact (List.isPrefixOf_iff_prefix.1 hbegins).trans (List.prefix_append _ _)
    exact Bool.noConfusion
      ((hn.noPair _ hlength pair hp).symm.trans (List.isPrefixOf_iff_prefix.2 hthere))

/-- **What has a name for its upper case**: a text that is the name but for the case of its letters,
once a dotless i and a long s are replaced. -/
theorem upper_eq_iff {name : String} (hn : Capitals name) {text : String} :
    upper text = name ↔ Bytes.SameButCase (ofText (plainText text)) (ofText name) := by
  rw [Utf8.sameButCase_ofText_iff, plainText, String.toList_ofList]
  constructor
  · intro h
    have hplain := plain_of_upper hn h
    have hlower : ∀ c ∈ text.toList.map plain, c.toUpper.toLower = c.toLower := by
      intro c hc
      obtain ⟨d, hd, rfl⟩ := List.mem_map.1 hc
      exact toLower_toUpper (hplain d hd)
    rw [← h, upper, String.toList_ofList, flatMap_upperChar_of_plain hplain]
    exact (List.map_map.trans (List.map_congr_left hlower)).symm
  · intro h
    have hplain : ∀ c ∈ text.toList, (plain c).toNat < 0x80 := by
      intro c hc
      have hm : (plain c).toLower ∈ name.toList.map Char.toLower := by
        rw [← h]
        exact List.mem_map_of_mem (List.mem_map_of_mem hc)
      obtain ⟨d, hd, e⟩ := List.mem_map.1 hm
      rw [← Utf8.toLower_lt_iff, ← e, Utf8.toLower_lt_iff]
      exact (hn.capital d hd).1
    have hupper : ∀ c ∈ text.toList.map plain, c.toUpper = (Char.toUpper ∘ Char.toLower) c := by
      intro c hc
      obtain ⟨d, hd, rfl⟩ := List.mem_map.1 hc
      exact (toUpper_toLower (hplain d hd)).symm
    have hname : ∀ c ∈ name.toList, c.toLower.toUpper = c := fun c hc =>
      (toUpper_toLower (hn.capital c hc).1).trans (hn.capital c hc).2
    apply String.toList_inj.1
    rw [upper, String.toList_ofList]
    calc text.toList.flatMap upperChar
      _ = (text.toList.map plain).map Char.toUpper := flatMap_upperChar_of_plain hplain
      _ = ((text.toList.map plain).map Char.toLower).map Char.toUpper :=
        (List.map_congr_left hupper).trans List.map_map.symm
      _ = (name.toList.map Char.toLower).map Char.toUpper := by rw [h]
      _ = name.toList := (List.map_map.trans (List.map_congr_left hname)).trans (List.map_id _)

end Casing

end StreamRequest
