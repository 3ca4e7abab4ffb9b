/-
Reading and writing UTF-8 undo one another.

`readChar_encodeChar` and `encodeChar_of_readChar` are the two directions for
one character: what is written is read, whatever follows, and what is read is
exactly what would be written. All else is counting: `decodeFrom_skip` passes
over the bytes of a character that has been read. Hence **`decode` accepts the
encodings of texts and nothing else** (`decode_eq_ok_iff`).
-/
import StreamRequest.Text.Utf8

namespace StreamRequest.Utf8

/-! ## One character -/

theorem isTrail_iff {b : UInt8} : isTrail b = true ↔ 0x80 ≤ b.toNat ∧ b.toNat < 0xC0 := by
  simp [isTrail]

theorem isSecond_iff {a b : UInt8} : isSecond a b = true ↔
    (0x80 ≤ b.toNat ∧ b.toNat < 0xC0) ∧ (a.toNat ≠ 0xE0 ∨ 0xA0 ≤ b.toNat) ∧
      (a.toNat ≠ 0xED ∨ b.toNat < 0xA0) ∧ (a.toNat ≠ 0xF0 ∨ 0x90 ≤ b.toNat) ∧
      (a.toNat ≠ 0xF4 ∨ b.toNat < 0x90) := by
  simp [isSecond, isTrail, and_assoc]

theorem toNat_byte {n : Nat} (h : n < 256) : (UInt8.ofNat n).toNat = n := by
  rw [UInt8.toNat_ofNat']
  exact Nat.mod_eq_of_lt h

theorem byte_eq {n : Nat} {b : UInt8} (h : n = b.toNat) : UInt8.ofNat n = b := by
  rw [h, UInt8.ofNat_toNat]

theorem ofNat_eq {n : Nat} {c : Char} (h : n = c.toNat) : Char.ofNat n = c := by
  rw [h, Char.ofNat_toNat]

theorem toNat_ofNat {n : Nat} (h : n < 0xD800 ∨ 0xDFFF < n ∧ n < 0x110000) :
    (Char.ofNat n).toNat = n := by
  rw [Char.ofNat, dif_pos h]
  rfl

/-- A character at the head of some bytes is read, whatever follows it. -/
theorem readChar_encodeChar (c : Char) (more : Bytes) :
    ∃ a tail, encodeChar c = a :: tail ∧ readChar a (tail ++ more) = .char c (tail.length + 1) := by
  have hv : c.toNat < 0xD800 ∨ 0xDFFF < c.toNat ∧ c.toNat < 0x110000 := c.valid
  unfold encodeChar
  simp only
  split
  · have ha := toNat_byte (n := c.toNat) (by omega)
    generalize UInt8.ofNat c.toNat = a at ha
    refine ⟨a, [], rfl, ?_⟩
    rw [readChar, if_pos (by omega), ofNat_eq ha]
    rfl
  split
  · have ha := toNat_byte (n := 0xC0 + c.toNat / 64) (by omega)
    have hb := toNat_byte (n := 0x80 + c.toNat % 64) (by omega)
    generalize UInt8.ofNat (0xC0 + c.toNat / 64) = a at ha
    generalize UInt8.ofNat (0x80 + c.toNat % 64) = b at hb
    refine ⟨a, [b], rfl, ?_⟩
    have hs : isSecond a b = true := isSecond_iff.2 (by omega)
    have hc : ofTwo a b = c := ofNat_eq (by omega)
    rw [readChar, if_neg (by omega), if_neg (by omega), if_pos (by omega), List.cons_append,
      readTwo, if_pos hs, hc]
    rfl
  split
  · have ha := toNat_byte (n := 0xE0 + c.toNat / 4096) (by omega)
    have hb := toNat_byte (n := 0x80 + c.toNat / 64 % 64) (by omega)
    have hd := toNat_byte (n := 0x80 + c.toNat % 64) (by omega)
    generalize UInt8.ofNat (0xE0 + c.toNat / 4096) = a at ha
    generalize UInt8.ofNat (0x80 + c.toNat / 64 % 64) = b at hb
    generalize UInt8.ofNat (0x80 + c.toNat % 64) = d at hd
    refine ⟨a, [b, d], rfl, ?_⟩
    have hs : isSecond a b = true := isSecond_iff.2 (by omega)
    have ht : isTrail d = true := isTrail_iff.2 (by omega)
    have hc : ofThree a b d = c := ofNat_eq (by omega)
    rw [readChar, if_neg (by omega), if_neg (by omega), if_neg (by omega), if_pos (by omega),
      List.cons_append, List.cons_append, readThree, if_pos hs, if_pos ht, hc]
    rfl
  · have ha := toNat_byte (n := 0xF0 + c.toNat / 262144) (by omega)
    have hb := toNat_byte (n := 0x80 + c.toNat / 4096 % 64) (by omega)
    have hd := toNat_byte (n := 0x80 + c.toNat / 64 % 64) (by omega)
    have he := toNat_byte (n := 0x80 + c.toNat % 64) (by omega)
    generalize UInt8.ofNat (0xF0 + c.toNat / 262144) = a at ha
    generalize UInt8.ofNat (0x80 + c.toNat / 4096 % 64) = b at hb
    generalize UInt8.ofNat (0x80 + c.toNat / 64 % 64) = d at hd
    generalize UInt8.ofNat (0x80 + c.toNat % 64) = e at he
    refine ⟨a, [b, d, e], rfl, ?_⟩
    have hs : isSecond a b = true := isSecond_iff.2 (by omega)
    have ht : isTrail d = true := isTrail_iff.2 (by omega)
    have hu : isTrail e = true := isTrail_iff.2 (by omega)
    have hc : ofFour a b d e = c := ofNat_eq (by omega)
    rw [readChar, if_neg (by omega), if_neg (by omega), if_neg (by omega), if_neg (by omega),
      if_pos (by omega), List.cons_append, List.cons_append, List.cons_append, readFour, if_pos hs,
      if_pos ht, if_pos hu, hc]
    rfl

theorem encodeChar_ofTwo {a b : UInt8} (h₁ : 0xC2 ≤ a.toNat) (h₂ : a.toNat < 0xE0)
    (hs : isSecond a b = true) : encodeChar (ofTwo a b) = [a, b] := by
  have hb := isSecond_iff.1 hs
  have hn : (ofTwo a b).toNat = a.toNat % 32 * 64 + b.toNat % 64 := toNat_ofNat (by omega)
  unfold encodeChar
  simp only
  rw [if_neg (by omega), if_pos (by omega), byte_eq (b := a) (by omega),
    byte_eq (b := b) (by omega)]

theorem encodeChar_ofThree {a b c : UInt8} (h₁ : 0xE0 ≤ a.toNat) (h₂ : a.toNat < 0xF0)
    (hs : isSecond a b = true) (ht : isTrail c = true) :
    encodeChar (ofThree a b c) = [a, b, c] := by
  have hb := isSecond_iff.1 hs
  have hc := isTrail_iff.1 ht
  have hn : (ofThree a b c).toNat = a.toNat % 16 * 4096 + b.toNat % 64 * 64 + c.toNat % 64 :=
    toNat_ofNat (by omega)
  unfold encodeChar
  simp only
  rw [if_neg (by omega), if_neg (by omega), if_pos (by omega), byte_eq (b := a) (by omega),
    byte_eq (b := b) (by omega), byte_eq (b := c) (by omega)]

theorem encodeChar_ofFour {a b c d : UInt8} (h₁ : 0xF0 ≤ a.toNat) (h₂ : a.toNat < 0xF5)
    (hs : isSecond a b = true) (ht : isTrail c = true) (hu : isTrail d = true) :
    encodeChar (ofFour a b c d) = [a, b, c, d] := by
  have hb := isSecond_iff.1 hs
  have hc := isTrail_iff.1 ht
  have hd := isTrail_iff.1 hu
  have hn : (ofFour a b c d).toNat =
      a.toNat % 8 * 262144 + b.toNat % 64 * 4096 + c.toNat % 64 * 64 + d.toNat % 64 :=
    toNat_ofNat (by omega)
  unfold encodeChar
  simp only
  rw [if_neg (by omega), if_neg (by omega), if_neg (by omega), byte_eq (b := a) (by omega),
    byte_eq (b := b) (by omega), byte_eq (b := c) (by omega), byte_eq (b := d) (by omega)]

/-- A character that is read stands there as it would be written. -/
theorem encodeChar_of_readChar {a : UInt8} {rest : Bytes} {c : Char} {width : Nat}
    (h : readChar a rest = .char c width) :
    ∃ tail more, rest = tail ++ more ∧ encodeChar c = a :: tail ∧ width = tail.length + 1 := by
  unfold readChar at h
  split at h
  · obtain ⟨rfl, rfl⟩ := Reading.char.inj h
    refine ⟨[], rest, rfl, ?_, rfl⟩
    have hn : (Char.ofNat a.toNat).toNat = a.toNat := toNat_ofNat (by omega)
    unfold encodeChar
    simp only
    rw [if_pos (by omega), byte_eq hn]
  split at h
  · exact absurd h (by simp)
  split at h
  · unfold readTwo at h
    split at h
    · exact absurd h (by simp)
    split at h
    · obtain ⟨rfl, rfl⟩ := Reading.char.inj h
      exact ⟨[_], _, rfl, encodeChar_ofTwo (by omega) (by omega) (by assumption), rfl⟩
    · exact absurd h (by simp)
  split at h
  · unfold readThree at h
    split at h
    · exact absurd h (by simp)
    · split at h <;> exact absurd h (by simp)
    split at h
    · split at h
      · obtain ⟨rfl, rfl⟩ := Reading.char.inj h
        exact ⟨[_, _], _, rfl,
          encodeChar_ofThree (by omega) (by omega) (by assumption) (by assumption), rfl⟩
      · exact absurd h (by simp)
    · exact absurd h (by simp)
  split at h
  · unfold readFour at h
    split at h
    · exact absurd h (by simp)
    · split at h <;> exact absurd h (by simp)
    · split at h
      · split at h <;> exact absurd h (by simp)
      · exact absurd h (by simp)
    split at h
    · split at h
      · split at h
        · obtain ⟨rfl, rfl⟩ := Reading.char.inj h
          exact ⟨[_, _, _], _, rfl, encodeChar_ofFour (by omega) (by omega) (by assumption)
            (by assumption) (by assumption), rfl⟩
        · exact absurd h (by simp)
      · exact absurd h (by simp)
    · exact absurd h (by simp)
  · exact absurd h (by simp)

/-! ## Texts -/

@[simp] theorem encode_cons (c : Char) (text : List Char) :
    encode (c :: text) = encodeChar c ++ encode text := rfl

@[simp] theorem encode_append (s t : List Char) : encode (s ++ t) = encode s ++ encode t :=
  List.flatMap_append

theorem decodeFrom_skip (skip position : Nat) (data : Bytes) :
    decodeFrom skip position data = decodeFrom 0 (position + skip) (data.drop skip) := by
  induction data generalizing skip position with
  | nil => simp [decodeFrom]
  | cons a rest ih =>
    cases skip with
    | zero => rfl
    | succ more =>
      rw [decodeFrom, ih, List.drop_succ_cons]
      congr 1
      omega

theorem decodeFrom_encodeChar (c : Char) (position : Nat) (more : Bytes) :
    decodeFrom 0 position (encodeChar c ++ more) =
      (decodeFrom 0 (position + (encodeChar c).length) more).map (c :: ·) := by
  obtain ⟨a, tail, he, hr⟩ := readChar_encodeChar c more
  rw [he, List.cons_append, decodeFrom]
  simp only [hr]
  rw [decodeFrom_skip, Nat.add_sub_cancel, List.drop_left]
  congr 2
  simp only [List.length_cons]
  omega

theorem decodeFrom_encode (text : List Char) (position : Nat) (more : Bytes) :
    decodeFrom 0 position (encode text ++ more) =
      (decodeFrom 0 (position + (encode text).length) more).map (text ++ ·) := by
  induction text generalizing position with
  | nil =>
    simp only [encode, List.flatMap_nil, List.nil_append, List.length_nil, Nat.add_zero]
    cases decodeFrom 0 position more <;> rfl
  | cons c rest ih =>
    rw [encode_cons, List.append_assoc, decodeFrom_encodeChar, ih, List.length_append,
      Nat.add_assoc]
    cases decodeFrom 0 (position + ((encodeChar c).length + (encode rest).length)) more <;> rfl

@[simp] theorem decode_encode (text : List Char) : decode (encode text) = .ok text := by
  have h := decodeFrom_encode text 0 []
  rw [List.append_nil] at h
  rw [decode, h, decodeFrom]
  simp [Except.map]

/-- Bytes that are read as a text are the bytes of the text. -/
theorem encode_of_decodeFrom {position : Nat} {data : Bytes} {text : List Char}
    (h : decodeFrom 0 position data = .ok text) : encode text = data := by
  generalize hn : data.length = n
  induction n using Nat.strongRecOn generalizing data position text with
  | _ n ih =>
    cases data with
    | nil =>
      rw [decodeFrom] at h
      obtain rfl := Except.ok.inj h
      rfl
    | cons a rest =>
      rw [decodeFrom] at h
      split at h
      · rename_i c width hr
        obtain ⟨tail, more, rfl, he, rfl⟩ := encodeChar_of_readChar hr
        rw [decodeFrom_skip, Nat.add_sub_cancel, List.drop_left] at h
        cases hm : decodeFrom 0 (position + 1 + tail.length) more with
        | error fault => rw [hm] at h; exact absurd h (by simp [Except.map])
        | ok read =>
          rw [hm] at h
          obtain rfl := Except.ok.inj h
          have hlt : more.length < n := by
            rw [← hn, List.length_cons, List.length_append]
            omega
          rw [encode_cons, he, ih more.length hlt hm rfl]
          rfl
      · exact absurd h (by simp)

/-- **Bytes are read as a text exactly if they are the bytes of it.** -/
theorem decode_eq_ok_iff {data : Bytes} {text : List Char} :
    decode data = .ok text ↔ encode text = data :=
  ⟨encode_of_decodeFrom, fun h => h ▸ decode_encode text⟩

theorem encode_injective {s t : List Char} (h : encode s = encode t) : s = t := by
  have := decode_encode s
  rw [h, decode_encode] at this
  exact (Except.ok.inj this).symm

end StreamRequest.Utf8
