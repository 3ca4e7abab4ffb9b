/-
The wire form of a value tells where it ends and which value it is of, whatever
bytes follow it.

Every wire form is one line and what stands behind it (`encode_eq_line`). The
line ends at the first carriage return, so it comes off the front of any bytes
in one way (`line_cancel`), and it fixes the kind of the value and its text or
length. With the length known, the bytes of a bulk string are counted off,
whatever they look like, and the items of an array come off one after the other.
-/
import StreamRequest.Proofs.Results
import StreamRequest.Proofs.Text.Ascii
import StreamRequest.Proofs.Text.CodeText
import StreamRequest.Proofs.Text.Decimal
import StreamRequest.Value.Wire

namespace StreamRequest

theorem Kind.marker_injective {k l : Kind} (h : k.marker = l.marker) : k = l := by
  cases k <;> cases l <;> first | rfl | exact absurd h (by decide)

namespace Value

open CodeText (map_char_injective)

/-! ## Lines -/

/-- The text on the first line of a value. -/
def header : Value → CodeText
  | .simple text | .error text => text
  | .integer number => (Decimal.ofInt number.toInt).map .char
  | .bulk data => (Decimal.ofNat data.length).map .char
  | .array items => (Decimal.ofNat items.length).map .char
  | .nullBulk | .nullArray => (Decimal.ofInt (-1)).map .char

/-- What stands behind the first line of a value. -/
def body : Value → Except Unwritable Bytes
  | .bulk data => .ok (data ++ lineEnd)
  | .array items => encodeAll items
  | _ => .ok []

theorem carriageReturn_mem_encode_iff {text : List Char} :
    0x0D ∈ Utf8.encode text ↔ '\r' ∈ text :=
  Utf8.mem_encode_iff (c := '\r') (by decide)

/-- A line comes off the front of any bytes in one way. -/
theorem line_cancel {k l : Kind} {s t : List Char} {a b : Bytes} (hs : '\r' ∉ s) (ht : '\r' ∉ t)
    (h : line k s ++ a = line l t ++ b) : k = l ∧ s = t ∧ a = b := by
  have before : ∀ {m : Kind} {u : List Char}, '\r' ∉ u →
      0x0D ∉ Utf8.encode (m.marker :: u) := by
    intro m u hu hm
    rcases List.mem_cons.1 (carriageReturn_mem_encode_iff.1 hm) with e | e
    · revert e
      cases m <;> decide
    · exact hu e
  have split : ∀ {m : Kind} {u : List Char} {c : Bytes}, '\r' ∉ u →
      (line m u ++ c).splitFirst 0x0D = (Utf8.encode (m.marker :: u), some (0x0A :: c)) := by
    intro m u c hu
    rw [line, List.append_assoc]
    exact Bytes.splitFirst_append (before hu) (0x0A :: c)
  have e := split (c := a) (m := k) hs
  rw [h, split ht] at e
  obtain ⟨he, ha⟩ := Prod.mk.inj e
  obtain ⟨hm, rfl⟩ := List.cons.inj (Utf8.encode_injective he)
  exact ⟨(Kind.marker_injective hm).symm, rfl, (List.cons.inj (Option.some.inj ha)).2.symm⟩

theorem textLine_eq_ok {k : Kind} {text : CodeText} {x : Bytes} (h : textLine k text = .ok x) :
    ∃ chars : List Char, text = chars.map .char ∧ '\r' ∉ chars ∧ x = line k chars := by
  unfold textLine at h
  split at h
  · cases h
  · rename_i hb
    split at h
    · rename_i spelled hs
      obtain rfl := CodeText.toText_eq_ok_iff.1 hs
      refine ⟨spelled.toList, rfl, fun hr => hb (.inl ?_), (Except.ok.inj h).symm⟩
      exact CodeText.char_mem_ofText.2 hr
    · cases h

/-- A wire form is a line without a carriage return in it, and what stands behind the line. -/
theorem encode_eq_line {v : Value} {x : Bytes} (h : encode v = .ok x) :
    ∃ chars, v.header = chars.map .char ∧ '\r' ∉ chars ∧
      ∃ y, v.body = .ok y ∧ x = line v.kind chars ++ y := by
  have hint : ∀ i : Int, '\r' ∉ Decimal.ofInt i := fun i =>
    Decimal.not_mem_ofInt (by decide) (by decide)
  have hnull : '\r' ∉ Decimal.ofInt (-1) := hint (-1)
  have hnat : ∀ n : Nat, '\r' ∉ Decimal.ofNat n := fun n => Decimal.not_mem_ofNat (by decide)
  cases v with
  | simple text =>
    obtain ⟨chars, rfl, hr, rfl⟩ := textLine_eq_ok h
    exact ⟨chars, rfl, hr, [], rfl, (List.append_nil _).symm⟩
  | error text =>
    obtain ⟨chars, rfl, hr, rfl⟩ := textLine_eq_ok h
    exact ⟨chars, rfl, hr, [], rfl, (List.append_nil _).symm⟩
  | integer number =>
    obtain rfl := Except.ok.inj h
    exact ⟨_, rfl, hint _, [], rfl, (List.append_nil _).symm⟩
  | bulk data =>
    obtain rfl := Except.ok.inj h
    exact ⟨_, rfl, hnat _, data ++ lineEnd, rfl, List.append_assoc _ _ _⟩
  | nullBulk =>
    obtain rfl := Except.ok.inj h
    exact ⟨_, rfl, hnull, [], rfl, (List.append_nil _).symm⟩
  | array items =>
    rw [encode] at h
    split at h
    · rename_i data hd
      exact ⟨_, rfl, hnat _, data, hd, (Except.ok.inj h).symm⟩
    · cases h
  | nullArray =>
    obtain rfl := Except.ok.inj h
    exact ⟨_, rfl, hnull, [], rfl, (List.append_nil _).symm⟩

theorem encodeAll_cons_eq_ok {v : Value} {rest : List Value} {x : Bytes}
    (h : encodeAll (v :: rest) = .ok x) :
    ∃ y z, encode v = .ok y ∧ encodeAll rest = .ok z ∧ x = y ++ z := by
  rw [encodeAll] at h
  split at h
  · rename_i y hy
    split at h
    · rename_i z hz
      exact ⟨y, z, hy, hz, (Except.ok.inj h).symm⟩
    · cases h
  · cases h

theorem ofNat_ne_null (n : Nat) : Decimal.ofNat n ≠ Decimal.ofInt (-1) :=
  Decimal.ofNat_ne_cons n (by decide) _

/-! ## Values -/

/-- The wire forms of as many values come off the front of any bytes in one way. -/
def Cancels (items : List Value) : Prop :=
  ∀ {others : List Value} {p q a b : Bytes}, items.length = others.length →
    encodeAll items = .ok p → encodeAll others = .ok q → p ++ a = q ++ b → items = others ∧ a = b

/-- Behind the same first line the same value goes on. -/
theorem body_cancel {v w : Value} {p q a b : Bytes} (ih : ∀ items, v = .array items → Cancels items)
    (hk : v.kind = w.kind) (hh : v.header = w.header) (hp : v.body = .ok p) (hq : w.body = .ok q)
    (h : p ++ a = q ++ b) : v = w ∧ a = b := by
  cases v <;> cases w <;> simp only [kind, reduceCtorEq] at hk <;>
    simp only [header, body, Except.ok.injEq] at hh hp hq
  case simple.simple s t =>
    subst hp hq
    exact ⟨congrArg Value.simple hh, h⟩
  case error.error s t =>
    subst hp hq
    exact ⟨congrArg Value.error hh, h⟩
  case integer.integer m n =>
    subst hp hq
    exact ⟨congrArg Value.integer (Int64.toInt_inj.1 (Decimal.ofInt_injective (map_char_injective hh))), h⟩
  case bulk.bulk c d =>
    subst hp hq
    rw [List.append_assoc, List.append_assoc] at h
    obtain ⟨rfl, h⟩ := List.append_inj h (Decimal.ofNat_injective (map_char_injective hh))
    exact ⟨rfl, List.append_cancel_left (List.append_cancel_left h)⟩
  case bulk.nullBulk d => exact absurd (map_char_injective hh) (ofNat_ne_null _)
  case nullBulk.bulk d => exact absurd (map_char_injective hh).symm (ofNat_ne_null _)
  case nullBulk.nullBulk =>
    subst hp hq
    exact ⟨rfl, h⟩
  case array.array items others =>
    obtain ⟨rfl, h⟩ := ih items rfl (Decimal.ofNat_injective (map_char_injective hh)) hp hq h
    exact ⟨rfl, h⟩
  case array.nullArray items => exact absurd (map_char_injective hh) (ofNat_ne_null _)
  case nullArray.array items => exact absurd (map_char_injective hh).symm (ofNat_ne_null _)
  case nullArray.nullArray =>
    subst hp hq
    exact ⟨rfl, h⟩

theorem cancel_of_items {v w : Value} {x y a b : Bytes}
    (ih : ∀ items, v = .array items → Cancels items) (hv : encode v = .ok x) (hw : encode w = .ok y)
    (h : x ++ a = y ++ b) : v = w ∧ a = b := by
  obtain ⟨chars, hcv, hrv, p, hp, rfl⟩ := encode_eq_line hv
  obtain ⟨others, hcw, hrw, q, hq, rfl⟩ := encode_eq_line hw
  rw [List.append_assoc, List.append_assoc] at h
  obtain ⟨hk, rfl, hr⟩ := line_cancel hrv hrw h
  exact body_cancel ih hk (hcv.trans hcw.symm) hp hq hr

mutual

/-- A wire form comes off the front of any bytes in one way. -/
theorem encode_cancel : ∀ (v : Value) {w : Value} {x y a b : Bytes}, encode v = .ok x →
    encode w = .ok y → x ++ a = y ++ b → v = w ∧ a = b
  | .array items, _, _, _, _, _, hv, hw, h =>
    cancel_of_items (fun _ e => Value.array.inj e ▸ encodeAll_cancel items) hv hw h
  | .simple _, _, _, _, _, _, hv, hw, h
  | .error _, _, _, _, _, _, hv, hw, h
  | .integer _, _, _, _, _, _, hv, hw, h
  | .bulk _, _, _, _, _, _, hv, hw, h
  | .nullBulk, _, _, _, _, _, hv, hw, h
  | .nullArray, _, _, _, _, _, hv, hw, h => cancel_of_items (fun _ e => nomatch e) hv hw h

theorem encodeAll_cancel : ∀ items : List Value, Cancels items
  | [], others, p, q, a, b, hl, hp, hq, h => by
    obtain rfl := List.length_eq_zero_iff.1 hl.symm
    obtain rfl := Except.ok.inj hp
    obtain rfl := Except.ok.inj hq
    exact ⟨rfl, h⟩
  | v :: rest, others, p, q, a, b, hl, hp, hq, h => by
    obtain ⟨w, others, rfl⟩ := List.exists_cons_of_length_eq_add_one hl.symm
    obtain ⟨x, p', hx, hp', rfl⟩ := encodeAll_cons_eq_ok hp
    obtain ⟨y, q', hy, hq', rfl⟩ := encodeAll_cons_eq_ok hq
    rw [List.append_assoc, List.append_assoc] at h
    obtain ⟨rfl, h⟩ := encode_cancel v hx hy h
    obtain ⟨rfl, h⟩ := encodeAll_cancel rest (Nat.succ.inj hl) hp' hq' h
    exact ⟨rfl, h⟩

end

/-! ## Sequences of values -/

theorem encode_ne_nil {v : Value} {x : Bytes} (h : encode v = .ok x) : x ≠ [] := by
  obtain ⟨chars, -, -, y, -, rfl⟩ := encode_eq_line h
  intro e
  have := congrArg List.length e
  simp only [line, lineEnd, List.length_append, List.length_cons, List.length_nil] at this
  omega

theorem encodeAll_injective {vs ws : List Value} {x : Bytes} (hv : encodeAll vs = .ok x)
    (hw : encodeAll ws = .ok x) : vs = ws := by
  induction vs generalizing ws x with
  | nil =>
    obtain rfl := Except.ok.inj hv
    cases ws with
    | nil => rfl
    | cons w ws =>
      obtain ⟨y, z, hy, -, e⟩ := encodeAll_cons_eq_ok hw
      exact absurd (List.append_eq_nil_iff.1 e.symm).1 (encode_ne_nil hy)
  | cons v vs ih =>
    obtain ⟨p, q, hp, hq, rfl⟩ := encodeAll_cons_eq_ok hv
    cases ws with
    | nil =>
      have e := Except.ok.inj hw
      exact absurd (List.append_eq_nil_iff.1 e.symm).1 (encode_ne_nil hp)
    | cons w ws =>
      obtain ⟨y, z, hy, hz, e⟩ := encodeAll_cons_eq_ok hw
      obtain ⟨rfl, rfl⟩ := encode_cancel v hp hy e
      rw [ih hq hz]

/-- **Unique decoding.** Of two wire forms with bytes behind them, the values and the bytes can be
told from the whole. So no wire form begins another, what is null is not what is empty, and a
stream of values has been made of one sequence only. -/
theorem encode_uniquely_decodable :
    (∀ {v w : Value} {x y a b : Bytes}, encode v = .ok x → encode w = .ok y →
      x ++ a = y ++ b → v = w ∧ a = b) ∧
    (∀ {v w : Value} {x y : Bytes}, encode v = .ok x → encode w = .ok y → x <+: y → x = y) ∧
    (encode .nullBulk ≠ encode (.bulk []) ∧ encode .nullArray ≠ encode (.array [])) ∧
    ∀ {vs ws : List Value} {x : Bytes}, encodeAll vs = .ok x → encodeAll ws = .ok x → vs = ws := by
  have distinct : ∀ {v w : Value} {x : Bytes}, encode v = .ok x → v ≠ w → encode v ≠ encode w := by
    intro v w x hv hne e
    have hw := e.symm.trans hv
    exact hne (encode_cancel v hv hw (a := []) (b := []) rfl).1
  refine ⟨encode_cancel _, ?_, ⟨?_, ?_⟩, encodeAll_injective⟩
  · intro v w x y hv hw h
    obtain ⟨a, rfl⟩ := h
    obtain ⟨-, rfl⟩ := encode_cancel v hv hw (b := []) (List.append_nil _).symm
    exact (List.append_nil _).symm
  · exact distinct rfl (by simp)
  · exact distinct rfl (by simp)

/-- A bulk string that holds the wire form of a null, before that null and other bytes. -/
theorem encode_uniquely_decodable_null_within :
    let null : Bytes := [0x24, 0x2D, 0x31, 0x0D, 0x0A]
    let wire : Bytes := [0x24, 0x35, 0x0D, 0x0A] ++ null ++ [0x0D, 0x0A]
    encode (.bulk null) = .ok wire ∧ encodeAll [.bulk null, .nullBulk] = .ok (wire ++ null) ∧
      (Value.bulk null = .bulk null ∧ null = null) ∧ wire = wire ∧
      [Value.bulk null, .nullBulk] = [.bulk null, .nullBulk] := by
  intro null wire
  have hb : encode (.bulk null) = .ok wire := by decide +kernel
  have hs : encodeAll [.bulk null, .nullBulk] = .ok (wire ++ null) := by decide +kernel
  exact ⟨hb, hs, encode_uniquely_decodable.1 hb hb rfl,
    encode_uniquely_decodable.2.1 hb hb List.prefix_rfl, encode_uniquely_decodable.2.2.2 hs hs⟩

end Value

end StreamRequest
