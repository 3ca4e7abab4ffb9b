/-
Spellings of bytes in hexadecimal digits.

`Spells` says what a spelling of bytes is, and `Breaks` where bytes fail to be
one, both without the reader. The reader keeps the value of a digit whose partner
is still to come; `Pending` says which byte that digit was, so that what is proved
of the reader is said of whole pairs (`spells_of_readFrom`, `breaks_of_readFrom`).
Hence it accepts the spellings and nothing else, and refuses at the byte that
rules the others out (`read_eq_ok_iff`, `breaksAt_of_read`).
-/
import Mathlib.Data.List.Forall2
import StreamRequest.Proofs.Results
import StreamRequest.Proofs.Text.AsciiCase
import StreamRequest.Text.Hexadecimal

namespace StreamRequest.Hexadecimal

open Bytes (SameButCase)

/-! ## What a spelling is -/

/-- Space, tab, line feed, vertical tab, form feed and carriage return. -/
def blanks : Bytes := [0x20, 0x09, 0x0A, 0x0B, 0x0C, 0x0D]

/-- The digits `0` to `9` and `a` to `f`. -/
def digits : Bytes :=
  [0x30, 0x31, 0x32, 0x33, 0x34, 0x35, 0x36, 0x37, 0x38, 0x39, 0x61, 0x62, 0x63, 0x64, 0x65, 0x66]

/-- The two digits of a byte, in lower case. -/
def written (d : UInt8) : Bytes := Utf8.encode (fixed 2 d.toNat)

/-- A byte that is a hexadecimal digit of either case. -/
def IsDigit (b : UInt8) : Prop := b.toAsciiLower ∈ digits

instance (b : UInt8) : Decidable (IsDigit b) :=
  inferInstanceAs (Decidable (_ ∈ _))

/-- `Spells s data`: the digits of the data in either case, two for each byte, with blanks between
the pairs and about them. -/
inductive Spells : Bytes → Bytes → Prop where
  | nil : Spells [] []
  | blank {b : UInt8} {rest data : Bytes} : b ∈ blanks → Spells rest data → Spells (b :: rest) data
  | pair {a b d : UInt8} {rest data : Bytes} :
    SameButCase [a, b] (written d) → Spells rest data → Spells (a :: b :: rest) (d :: data)

/-- `Breaks s k`: up to position `k` the bytes are those of a spelling, and there a digit is missing
that must come next. -/
inductive Breaks : Bytes → Nat → Prop where
  /-- There is neither a blank nor the first digit of a pair. -/
  | first {b : UInt8} {rest : Bytes} : b ∉ blanks → ¬IsDigit b → Breaks (b :: rest) 0
  /-- There is no second digit. -/
  | second {a b : UInt8} {rest : Bytes} : IsDigit a → ¬IsDigit b → Breaks (a :: b :: rest) 1
  /-- There is nothing behind the first digit of a pair. -/
  | ending {a : UInt8} : IsDigit a → Breaks [a] 1
  | blank {b : UInt8} {rest : Bytes} {k : Nat} :
    b ∈ blanks → Breaks rest k → Breaks (b :: rest) (k + 1)
  | pair {a b : UInt8} {rest : Bytes} {k : Nat} :
    IsDigit a → IsDigit b → Breaks rest k → Breaks (a :: b :: rest) (k + 2)

/-- Where bytes fail to be a spelling: at the first byte beyond ASCII if there is one. -/
inductive BreaksAt : Bytes → Nat → Prop where
  | beyondAscii {before after : Bytes} {b : UInt8} : (∀ x ∈ before, x.toNat < 0x80) →
    0x80 ≤ b.toNat → BreaksAt (before ++ b :: after) before.length
  | ascii {s : Bytes} {k : Nat} : (∀ x ∈ s, x.toNat < 0x80) → Breaks s k → BreaksAt s k

/-! ## Single bytes -/

theorem isBlank_iff {b : UInt8} : isBlank b = true ↔ b ∈ blanks := by
  simp only [isBlank, blanks, Bool.or_eq_true, Bool.and_eq_true, decide_eq_true_iff,
    List.mem_cons, List.not_mem_nil, or_false, ← UInt8.toNat_inj, UInt8.reduceToNat]
  omega

/-- The byte of the digit with a value. -/
def digitByte (v : Nat) : UInt8 := .ofNat (digit v).toNat

theorem toNat_digitByte {v : Nat} (hv : v < 16) :
    (digitByte v).toNat = if v < 10 then v + 0x30 else v + 0x57 := by
  have all : ∀ v < 16, (digitByte v).toNat = if v < 10 then v + 0x30 else v + 0x57 := by
    decide
  exact all v hv

/-- A digit of either case has the value of the one in lower case. -/
theorem value?_eq_some_iff {b : UInt8} {v : Nat} (hv : v < 16) :
    value? b = some v ↔ b.toAsciiLower = digitByte v := by
  rw [← UInt8.toNat_inj, Bytes.toNat_toAsciiLower, toNat_digitByte hv]
  simp only [value?]
  split
  · simp only [Option.some.injEq]
    split <;> split <;> omega
  split
  · simp only [Option.some.injEq]
    split <;> split <;> omega
  split
  · simp only [Option.some.injEq]
    split <;> split <;> omega
  · simp only [reduceCtorEq, false_iff]
    split <;> split <;> omega

theorem lt_of_value?_eq_some {b : UInt8} {v : Nat} (h : value? b = some v) : v < 16 := by
  simp only [value?] at h
  split at h
  · have := Option.some.inj h
    omega
  split at h
  · have := Option.some.inj h
    omega
  split at h
  · have := Option.some.inj h
    omega
  · cases h

theorem isDigit_iff {b : UInt8} : IsDigit b ↔ ∃ v, value? b = some v := by
  have hdigits : digits = (List.range 16).map digitByte := by decide
  rw [IsDigit, hdigits, List.mem_map]
  refine ⟨fun h => ?_, fun h => ?_⟩
  · obtain ⟨v, hv, e⟩ := h
    exact ⟨v, (value?_eq_some_iff (List.mem_range.1 hv)).2 e.symm⟩
  · obtain ⟨v, h⟩ := h
    have hv := lt_of_value?_eq_some h
    exact ⟨v, List.mem_range.2 hv, ((value?_eq_some_iff hv).1 h).symm⟩

theorem not_isDigit_iff {b : UInt8} : ¬IsDigit b ↔ value? b = none := by
  rw [isDigit_iff, Option.eq_none_iff_forall_ne_some, not_exists]

theorem not_blank_of_isDigit {b : UInt8} (h : IsDigit b) : isBlank b = false := by
  obtain ⟨v, h⟩ := isDigit_iff.1 h
  have hlow := (value?_eq_some_iff (lt_of_value?_eq_some h)).1 h
  rw [← UInt8.toNat_inj, Bytes.toNat_toAsciiLower, toNat_digitByte (lt_of_value?_eq_some h)] at hlow
  simp only [isBlank, Bool.or_eq_false_iff, Bool.and_eq_false_iff, decide_eq_false_iff_not]
  split at hlow <;> split at hlow <;> omega

theorem written_eq (d : UInt8) : written d = [digitByte (d.toNat / 16), digitByte (d.toNat % 16)] := by
  have ascii : ∀ n, (digit n).toNat < 0x80 := by
    have all : ∀ v < 16, (Nat.digitChar v).toNat < 0x80 := by decide
    exact fun n => all (n % 16) (Nat.mod_lt n (by decide))
  have hlast : digit (d.toNat % 16) = digit d.toNat := by
    rw [digit, digit, Nat.mod_mod]
  show Utf8.encode [digit (d.toNat / 16), digit d.toNat] = _
  rw [Utf8.encode_cons, Utf8.encode_cons, Utf8.encodeChar_ascii (ascii _),
    Utf8.encodeChar_ascii (ascii _), digitByte, digitByte, hlast]
  rfl

theorem sameButCase_written_iff {a b d : UInt8} :
    SameButCase [a, b] (written d) ↔
      ∃ high low, value? a = some high ∧ value? b = some low ∧ pair high low = d := by
  have hd := d.toNat_lt
  have lower : ∀ v < 16, (digitByte v).toAsciiLower = digitByte v := by decide
  have parts : SameButCase [a, b] (written d) ↔
      a.toAsciiLower = digitByte (d.toNat / 16) ∧ b.toAsciiLower = digitByte (d.toNat % 16) := by
    rw [SameButCase, written_eq]
    simp only [List.map_cons, List.map_nil, List.cons.injEq, and_true]
    rw [lower _ (by omega), lower _ (by omega)]
  rw [parts, ← value?_eq_some_iff (by omega), ← value?_eq_some_iff (by omega)]
  refine ⟨fun h => ?_, fun h => ?_⟩
  · refine ⟨_, _, h.1, h.2, ?_⟩
    rw [pair, Nat.div_add_mod', UInt8.ofNat_toNat]
  · obtain ⟨high, low, ha, hb, rfl⟩ := h
    have hhigh := lt_of_value?_eq_some ha
    have hlow := lt_of_value?_eq_some hb
    have hn : (pair high low).toNat = high * 16 + low := Utf8.toNat_byte (by omega)
    rw [hn, ha, hb]
    constructor <;> congr 1 <;> omega

/-! ## The reader -/

/-- The bytes that have been read of a pair, given the value that the reader keeps. -/
def Pending (high : Option Nat) (lead : Bytes) : Prop :=
  match high with
  | none => lead = []
  | some value => ∃ a, lead = [a] ∧ value? a = some value

theorem spells_of_readFrom {high : Option Nat} {position : Nat} {s data lead : Bytes}
    (h : readFrom high position s = .ok data) (hl : Pending high lead) : Spells (lead ++ s) data := by
  fun_induction readFrom high position s generalizing data lead with
  | case1 position =>
    obtain rfl := hl
    obtain rfl := Except.ok.inj h
    exact .nil
  | case2 position value => cases h
  | case3 position b rest hb ih =>
    obtain rfl := hl
    exact .blank (isBlank_iff.1 hb) (ih h rfl)
  | case4 position b rest hb hv => cases h
  | case5 position b rest hb value hv ih =>
    obtain rfl := hl
    exact ih h ⟨b, rfl, hv⟩
  | case6 position b rest value hv => cases h
  | case7 position b rest value low hv ih =>
    obtain ⟨a, rfl, ha⟩ := hl
    obtain ⟨more, hm, rfl⟩ := Results.map_eq_ok_iff.1 h
    exact .pair (sameButCase_written_iff.2 ⟨value, low, ha, hv, rfl⟩) (ih hm rfl)

theorem readFrom_of_spells {s data : Bytes} (h : Spells s data) (position : Nat) :
    readFrom none position s = .ok data := by
  induction h generalizing position with
  | nil => rfl
  | blank hb _ ih => rw [readFrom, if_pos (isBlank_iff.2 hb), ih]
  | @pair a b d rest data hd _ ih =>
    obtain ⟨high, low, ha, hb, rfl⟩ := sameButCase_written_iff.1 hd
    have hblank := not_blank_of_isDigit (isDigit_iff.2 ⟨high, ha⟩)
    simp only [readFrom, hblank, ha, hb, ih, Bool.false_eq_true, if_false]
    rfl

/-- The reader stops where the bytes break, counted from the pair that it is in. -/
theorem breaks_of_readFrom {high : Option Nat} {position p : Nat} {s lead : Bytes}
    (h : readFrom high position s = .error p) (hl : Pending high lead) :
    ∃ k, p + lead.length = position + k ∧ Breaks (lead ++ s) k := by
  fun_induction readFrom high position s generalizing lead with
  | case1 position => cases h
  | case2 position value =>
    obtain ⟨a, rfl, ha⟩ := hl
    obtain rfl := Except.error.inj h
    exact ⟨1, rfl, .ending (isDigit_iff.2 ⟨value, ha⟩)⟩
  | case3 position b rest hb ih =>
    obtain rfl := hl
    obtain ⟨k, hk, hbreak⟩ := ih h rfl
    exact ⟨k + 1, by omega, .blank (isBlank_iff.1 hb) hbreak⟩
  | case4 position b rest hb hv =>
    obtain rfl := hl
    obtain rfl := Except.error.inj h
    exact ⟨0, rfl, .first (fun hm => hb (isBlank_iff.2 hm)) (not_isDigit_iff.2 hv)⟩
  | case5 position b rest hb value hv ih =>
    obtain rfl := hl
    obtain ⟨k, hk, hbreak⟩ := ih h ⟨b, rfl, hv⟩
    simp only [List.length_cons, List.length_nil] at hk ⊢
    exact ⟨k, by omega, hbreak⟩
  | case6 position b rest value hv =>
    obtain ⟨a, rfl, ha⟩ := hl
    obtain rfl := Except.error.inj h
    exact ⟨1, rfl, .second (isDigit_iff.2 ⟨value, ha⟩) (not_isDigit_iff.2 hv)⟩
  | case7 position b rest value low hv ih =>
    obtain ⟨a, rfl, ha⟩ := hl
    obtain ⟨k, hk, hbreak⟩ := ih (Results.map_eq_error_iff.1 h) rfl
    simp only [List.length_cons, List.length_nil] at hk ⊢
    exact ⟨k + 2, by omega, .pair (isDigit_iff.2 ⟨value, ha⟩) (isDigit_iff.2 ⟨low, hv⟩) hbreak⟩

/-! ## Whole spellings -/

theorem ascii_of_isDigit {b : UInt8} (h : IsDigit b) : b.toNat < 0x80 := by
  rw [← Bytes.toAsciiLower_lt_iff]
  have all : ∀ x ∈ digits, x.toNat < 0x80 := by decide +kernel
  exact all _ h

theorem Spells.ascii {s data : Bytes} (h : Spells s data) : ∀ x ∈ s, x.toNat < 0x80 := by
  induction h with
  | nil =>
    intro x hx
    cases hx
  | blank hb _ ih =>
    have all : ∀ x ∈ blanks, x.toNat < 0x80 := by decide +kernel
    intro x hx
    rcases List.mem_cons.1 hx with rfl | hx
    · exact all _ hb
    · exact ih x hx
  | pair hd _ ih =>
    obtain ⟨high, low, ha, hb, -⟩ := sameButCase_written_iff.1 hd
    intro x hx
    rcases List.mem_cons.1 hx with rfl | hx
    · exact ascii_of_isDigit (isDigit_iff.2 ⟨high, ha⟩)
    rcases List.mem_cons.1 hx with rfl | hx
    · exact ascii_of_isDigit (isDigit_iff.2 ⟨low, hb⟩)
    · exact ih x hx

/-- **The reader accepts the spellings of bytes and nothing else.** -/
theorem read_eq_ok_iff {s data : Bytes} : read s = .ok data ↔ Spells s data := by
  unfold read
  refine ⟨fun h => ?_, fun h => ?_⟩
  · split at h
    · cases h
    · have hs : Spells ([] ++ s) data := spells_of_readFrom h rfl
      exact hs
  · have hnone : s.findIdx? (fun b => 0x80 ≤ b.toNat) = none := by
      rw [List.findIdx?_eq_none_iff]
      intro x hx
      have := h.ascii x hx
      exact decide_eq_false (by omega)
    rw [hnone]
    exact readFrom_of_spells h 0

/-- **What is refused breaks where the reader says.** -/
theorem breaksAt_of_read {s : Bytes} {p : Nat} (h : read s = .error p) : BreaksAt s p := by
  unfold read at h
  split at h
  · rename_i k hk
    obtain rfl := Except.error.inj h
    obtain ⟨hlt, hge, hbefore⟩ := List.findIdx?_eq_some_iff_getElem.1 hk
    have hs : s = s.take k ++ s[k] :: s.drop (k + 1) := by
      rw [← List.drop_eq_getElem_cons hlt, List.take_append_drop]
    have hlen : (s.take k).length = k := by
      rw [List.length_take]
      omega
    have hb : BreaksAt (s.take k ++ s[k] :: s.drop (k + 1)) (s.take k).length := by
      refine .beyondAscii (fun x hx => ?_) (of_decide_eq_true hge)
      obtain ⟨j, hj, rfl⟩ := List.mem_iff_getElem.1 hx
      have := hbefore j (by omega)
      rw [List.getElem_take]
      exact Nat.lt_of_not_le fun hle => this (decide_eq_true hle)
    rwa [← hs, hlen] at hb
  · rename_i hk
    obtain ⟨k, hp, hbreak⟩ : ∃ k, p + [].length = 0 + k ∧ Breaks ([] ++ s) k :=
      breaks_of_readFrom h rfl
    obtain rfl : p = k := by rwa [Nat.zero_add] at hp
    refine .ascii (fun x hx => ?_) hbreak
    have := List.findIdx?_eq_none_iff.1 hk x hx
    exact Nat.lt_of_not_le (of_decide_eq_false this)

/-! ## Several spellings -/

theorem readAll_eq_ok_iff {ss datas : List Bytes} :
    readAll ss = .ok datas ↔ List.Forall₂ Spells ss datas := by
  induction ss generalizing datas with
  | nil =>
    refine ⟨fun h => ?_, fun h => ?_⟩
    · obtain rfl := Except.ok.inj h
      exact .nil
    · cases h
      rfl
  | cons s rest ih =>
    rw [readAll, List.forall₂_cons_left_iff]
    refine ⟨fun h => ?_, fun h => ?_⟩
    · split at h
      · cases h
      · rename_i data hd
        obtain ⟨more, hm, rfl⟩ := Results.map_eq_ok_iff.1 h
        exact ⟨data, more, read_eq_ok_iff.1 hd, ih.1 hm, rfl⟩
    · obtain ⟨data, more, hd, hm, rfl⟩ := h
      rw [read_eq_ok_iff.2 hd, ih.2 hm]
      rfl

theorem exists_spells_of_mem {ss datas : List Bytes} (h : List.Forall₂ Spells ss datas) :
    ∀ s ∈ ss, ∃ data, Spells s data := by
  induction h with
  | nil =>
    intro s hs
    cases hs
  | @cons t data rest more ht _ ih =>
    intro s hs
    rcases List.mem_cons.1 hs with rfl | hs
    · exact ⟨data, ht⟩
    · exact ih s hs

/-- What is refused has a broken spelling in it, and the first of them is reported. -/
theorem breaksAt_of_readAll {ss : List Bytes} {p : Nat} (h : readAll ss = .error p) :
    ∃ before s after, ss = before ++ s :: after ∧ (∀ t ∈ before, ∃ data, Spells t data) ∧
      (∀ data, ¬Spells s data) ∧ BreaksAt s p := by
  induction ss with
  | nil => cases h
  | cons s rest ih =>
    rw [readAll] at h
    split at h
    · rename_i position hs
      obtain rfl := Except.error.inj h
      refine ⟨[], s, rest, rfl, fun t ht => ?_, fun data hd => ?_, breaksAt_of_read hs⟩
      · cases ht
      · rw [read_eq_ok_iff.2 hd] at hs
        cases hs
    · rename_i data hd
      obtain ⟨before, t, after, rfl, hbefore, ht⟩ := ih (Results.map_eq_error_iff.1 h)
      refine ⟨s :: before, t, after, rfl, fun u hu => ?_, ht⟩
      rcases List.mem_cons.1 hu with rfl | hu
      · exact ⟨data, read_eq_ok_iff.1 hd⟩
      · exact hbefore u hu

end StreamRequest.Hexadecimal
