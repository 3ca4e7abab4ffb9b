/-
ASCII within UTF-8. A byte below 80 is a character of its own and never part
of another one's form (`count_encode`), so text may be taken apart at such a
byte before it is read. Bytes that are all below 80 are text, a character for
each (`ofText_ascii`).
-/
import StreamRequest.Proofs.Results
import StreamRequest.Text.Utf8.RoundTrip

namespace StreamRequest.Utf8

/-! ## One character -/

theorem encodeChar_ascii {c : Char} (h : c.toNat < 0x80) : encodeChar c = [.ofNat c.toNat] := by
  unfold encodeChar
  simp only
  rw [if_pos h]

theorem le_of_mem_encodeChar {c : Char} (h : 0x80 ≤ c.toNat) {b : UInt8} (hb : b ∈ encodeChar c) :
    0x80 ≤ b.toNat := by
  have hv : c.toNat < 0xD800 ∨ 0xDFFF < c.toNat ∧ c.toNat < 0x110000 := c.valid
  -- Every byte of such a form is a number from 80 to FF, written out.
  have key : ∀ n, 0x80 ≤ n → n < 256 → b = .ofNat n → 0x80 ≤ b.toNat := by
    intro n hn hn' e
    rw [e, toNat_byte hn']
    exact hn
  unfold encodeChar at hb
  simp only at hb
  rw [if_neg (by omega)] at hb
  split at hb
  · simp only [List.mem_cons, List.not_mem_nil, or_false] at hb
    rcases hb with hb | hb <;> exact key _ (by omega) (by omega) hb
  split at hb
  · simp only [List.mem_cons, List.not_mem_nil, or_false] at hb
    rcases hb with hb | hb | hb <;> exact key _ (by omega) (by omega) hb
  · simp only [List.mem_cons, List.not_mem_nil, or_false] at hb
    rcases hb with hb | hb | hb | hb <;> exact key _ (by omega) (by omega) hb

/-- The byte of an ASCII character is among the bytes of that character only. -/
theorem count_encodeChar {c : Char} (hc : c.toNat < 0x80) (d : Char) :
    (encodeChar d).count (.ofNat c.toNat) = if d = c then 1 else 0 := by
  have hn : (UInt8.ofNat c.toNat).toNat = c.toNat := toNat_byte (by omega)
  split
  · rename_i h
    rw [h, encodeChar_ascii hc, List.count_singleton_self]
  · rename_i h
    refine List.count_eq_zero.2 fun hb => ?_
    by_cases hlt : d.toNat < 0x80
    · rw [encodeChar_ascii hlt, List.mem_singleton] at hb
      have hcd : c.toNat = d.toNat := by
        rw [← hn, hb, toNat_byte (by omega)]
      exact h (by rw [← Char.ofNat_toNat c, ← Char.ofNat_toNat d, hcd])
    · have := le_of_mem_encodeChar (by omega) hb
      omega

/-! ## Texts -/

/-- The byte of an ASCII character stands among the bytes of a text as often as the character
stands in the text. -/
theorem count_encode {c : Char} (hc : c.toNat < 0x80) (text : List Char) :
    (encode text).count (.ofNat c.toNat) = text.count c := by
  induction text with
  | nil => rfl
  | cons d rest ih =>
    rw [encode_cons, List.count_append, count_encodeChar hc, ih, List.count_cons, Nat.add_comm]
    simp only [beq_iff_eq]

theorem mem_encode_iff {c : Char} (hc : c.toNat < 0x80) {text : List Char} :
    UInt8.ofNat c.toNat ∈ encode text ↔ c ∈ text := by
  rw [← List.count_pos_iff, count_encode hc, List.count_pos_iff]

theorem encode_ascii_iff {text : List Char} :
    (∀ b ∈ encode text, b.toNat < 0x80) ↔ ∀ c ∈ text, c.toNat < 0x80 := by
  refine ⟨fun h c hc => ?_, fun h b hb => ?_⟩
  · by_cases hlt : c.toNat < 0x80
    · exact hlt
    · obtain ⟨a, tail, he, -⟩ := readChar_encodeChar c []
      have hm : a ∈ encodeChar c := he ▸ List.mem_cons_self
      have := le_of_mem_encodeChar (by omega) hm
      have := h a (List.mem_flatMap.2 ⟨c, hc, hm⟩)
      omega
  · obtain ⟨c, hc, hb⟩ := List.mem_flatMap.1 hb
    have hlt := h c hc
    rw [encodeChar_ascii hlt, List.mem_singleton] at hb
    rw [hb, toNat_byte (by omega)]
    exact hlt

/-- The character that an ASCII byte is. -/
def asciiChar (b : UInt8) : Char :=
  .ofNat b.toNat

theorem toNat_asciiChar {b : UInt8} (h : b.toNat < 0x80) : (asciiChar b).toNat = b.toNat :=
  toNat_ofNat (by omega)

theorem encode_ascii {data : Bytes} (h : ∀ b ∈ data, b.toNat < 0x80) :
    encode (data.map asciiChar) = data := by
  induction data with
  | nil => rfl
  | cons b rest ih =>
    have hb : b.toNat < 0x80 := h b List.mem_cons_self
    have hn := toNat_asciiChar hb
    rw [List.map_cons, encode_cons, encodeChar_ascii (by omega), hn, UInt8.ofNat_toNat,
      ih fun x hx => h x (List.mem_cons_of_mem _ hx)]
    rfl

@[simp] theorem ofText_append (s t : String) : ofText (s ++ t) = ofText s ++ ofText t := by
  simp [ofText]

theorem ofText_ascii {data : Bytes} (h : ∀ b ∈ data, b.toNat < 0x80) :
    ofText (.ofList (data.map asciiChar)) = data := by
  rw [ofText, String.toList_ofList, encode_ascii h]

theorem toText_eq_ok_iff {data : Bytes} {text : String} :
    toText data = .ok text ↔ ofText text = data := by
  unfold toText ofText
  rw [Results.map_eq_ok_iff]
  constructor
  · intro h
    obtain ⟨read, hd, rfl⟩ := h
    rw [String.toList_ofList]
    exact decode_eq_ok_iff.1 hd
  · intro h
    exact ⟨text.toList, decode_eq_ok_iff.2 h, String.ofList_toList⟩

theorem ofText_injective {s t : String} (h : ofText s = ofText t) : s = t :=
  String.toList_inj.1 (encode_injective h)

@[simp] theorem toText_ofText (text : String) : toText (ofText text) = .ok text :=
  toText_eq_ok_iff.2 rfl

theorem wellFormed_ofText (text : String) : WellFormed (ofText text) :=
  ⟨text.toList, rfl⟩

theorem exists_ofText {data : Bytes} (h : WellFormed data) : ∃ text, ofText text = data := by
  obtain ⟨chars, rfl⟩ := h
  exact ⟨.ofList chars, by rw [ofText, String.toList_ofList]⟩

end StreamRequest.Utf8
