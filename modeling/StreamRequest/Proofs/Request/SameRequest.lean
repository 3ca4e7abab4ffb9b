/-
Which requests ask for the same.

Two requests that are accepted yield the same command if they differ in nothing
but the case of the name and the way the offset is spelled: by a sign, by leading
zeros, or not at all where it is the tail (`decode_eq_iff_sameButSpelling`).

What a target means is said here of its bytes (`targetMeaning`). That the reader
finds the same is `target_meaning`; it rests on the digits being read one by one
(`signedValue_of_readInt?`), so that two spellings are told apart by their values
alone.
-/
import Mathlib.Data.List.TakeWhile
import StreamRequest.Proofs.Request.Name
import StreamRequest.Proofs.Text.Spelling

namespace StreamRequest

/-! ## Numbers in bytes -/

namespace Bytes

/-- The number that ASCII digits denote. -/
def digitsValue (digits : Bytes) : Nat :=
  digits.foldl (fun n b => 10 * n + (b.toNat - 0x30)) 0

/-- The integer that ASCII digits denote behind a sign, or without one. -/
def signedValue : Bytes → Int
  | 0x2D :: digits => -(digitsValue digits : Int)
  | 0x2B :: digits => digitsValue digits
  | digits => digitsValue digits

theorem signedValue_of_unsigned {b : UInt8} {digits : Bytes} (hm : b ≠ 0x2D) (hp : b ≠ 0x2B) :
    signedValue (b :: digits) = digitsValue (b :: digits) := by
  unfold signedValue
  split
  · rename_i h
    exact absurd (List.cons.inj h).1 hm
  · rename_i h
    exact absurd (List.cons.inj h).1 hp
  · rfl

theorem digitsValue_encode {digits : List Char} (h : digits.all Char.isDigit = true) :
    digitsValue (Utf8.encode digits) = Nat.ofDigitChars 10 digits 0 := by
  rw [digitsValue, Nat.ofDigitChars]
  generalize 0 = n
  induction digits generalizing n with
  | nil => rfl
  | cons c rest ih =>
    rw [List.all_cons, Bool.and_eq_true] at h
    have hc := (Decimal.toNat_of_isDigit h.1).2
    rw [Utf8.encode_cons, Utf8.encodeChar_ascii (by omega), List.singleton_append, List.foldl_cons,
      List.foldl_cons, Utf8.toNat_byte (by omega)]
    exact ih h.2 _

theorem digit_ne_sign {c s : Char} (hc : c.isDigit = true) (hs : s.toNat < 0x30) :
    UInt8.ofNat c.toNat ≠ .ofNat s.toNat := by
  obtain ⟨hl, hm⟩ := Decimal.toNat_of_isDigit hc
  intro e
  have := congrArg UInt8.toNat e
  rw [Utf8.toNat_byte (by omega), Utf8.toNat_byte (by omega)] at this
  omega

theorem signedValue_of_spelling {text : List Char} {s : Decimal.Spelling}
    (h : Decimal.Spelling.ofText? text = some s) :
    signedValue (Utf8.encode text) = s.integer := by
  have hvalue := digitsValue_encode s.decimal
  unfold Decimal.Spelling.integer
  simp only [← hvalue]
  unfold Decimal.Spelling.ofText? at h
  split at h
  · obtain ⟨hn, hd⟩ := Decimal.Spelling.ofDigits?_eq_some h
    rw [hn, hd]
    rfl
  · obtain ⟨hn, hd⟩ := Decimal.Spelling.ofDigits?_eq_some h
    rw [hn, hd]
    rfl
  · obtain ⟨hn, hd⟩ := Decimal.Spelling.ofDigits?_eq_some h
    obtain ⟨c, rest, he⟩ := List.exists_cons_of_ne_nil s.nonempty
    have hc : c.isDigit = true := List.all_eq_true.1 s.decimal c (he ▸ List.mem_cons_self)
    have hlt := (Decimal.toNat_of_isDigit hc).2
    rw [hn, ← hd, he, Utf8.encode_cons, Utf8.encodeChar_ascii (by omega), List.singleton_append,
      signedValue_of_unsigned (digit_ne_sign hc (s := '-') (by decide))
        (digit_ne_sign hc (s := '+') (by decide))]
    rfl

theorem signedValue_of_readInt? {limit : Nat} {text : List Char} {i : Int}
    (h : Decimal.readInt? limit text = some i) : signedValue (Utf8.encode text) = i := by
  rw [Decimal.readInt?_eq] at h
  obtain ⟨s, hs, h⟩ := Option.bind_eq_some_iff.1 h
  split at h
  · rw [signedValue_of_spelling hs]
    exact Option.some.inj h
  · cases h

end Bytes

namespace Request

open Bytes (SameButCase)

/-! ## What arguments say -/

/-- The bytes before the first colon of a target, and the integer that the bytes behind it denote.
Without a colon the whole is before it, and the integer is -1. -/
def targetMeaning (target : Bytes) : Bytes × Int :=
  (target.takeWhile (· ≠ Command.separator),
    match target.dropWhile (· ≠ Command.separator) with
    | [] => -1
    | _ :: spelled => Bytes.signedValue spelled)

/-- Arguments that differ only in the case of the name and in the spelling of the offset. -/
structure SameButSpelling (as bs : List Bytes) : Prop where
  length : as.length = bs.length
  name : SameButCase (as.headD []) (bs.headD [])
  publication : SameButCase (as.headD []) (Utf8.ofText Command.publishName) → as.tail = bs.tail
  subscription : SameButCase (as.headD []) (Utf8.ofText Command.subscribeName) →
    as.tail.map targetMeaning = bs.tail.map targetMeaning

theorem target_meaning {data : Bytes} {stream : String} {i : Int}
    (h : target data = .ok (stream, i)) : targetMeaning data = (Utf8.ofText stream, i) := by
  obtain ⟨hc, h⟩ := target_eq_ok_iff.1 h
  have hall : ∀ b ∈ Utf8.ofText stream, decide (b ≠ Command.separator) = true := by
    intro b hb
    rw [decide_eq_true_iff]
    intro e
    exact hc (separator_mem_iff.1 (e ▸ hb))
  unfold targetMeaning
  obtain ⟨rfl, rfl⟩ | ⟨spelled, rfl, hi⟩ := h
  · rw [List.takeWhile_eq_self_iff.2 hall, List.dropWhile_eq_nil_iff.2 hall]
    rfl
  · obtain ⟨hread, -⟩ := offset_eq_ok_iff.1 hi
    rw [List.takeWhile_append_of_pos hall, List.dropWhile_append_of_pos hall,
      List.takeWhile_cons_of_neg (by simp), List.dropWhile_cons_of_neg (by simp), List.append_nil]
    exact congrArg (Prod.mk _) (Bytes.signedValue_of_readInt? hread)

/-! ## Two requests -/

theorem publications_sameButSpelling_iff {called called' event event' : Bytes}
    {stream stream' : String} (hn : SameButCase called (Utf8.ofText Command.publishName))
    (hn' : SameButCase called' (Utf8.ofText Command.publishName)) :
    SameButSpelling [called, Utf8.ofText stream, event] [called', Utf8.ofText stream', event'] ↔
      Command.publish stream event = .publish stream' event' := by
  refine ⟨fun h => ?_, fun h => ?_⟩
  · obtain ⟨hs, he⟩ := List.cons.inj (h.publication hn)
    rw [Utf8.ofText_injective hs, (List.cons.inj he).1]
  · obtain ⟨rfl, rfl⟩ := Command.publish.inj h
    exact ⟨rfl, hn.trans hn'.symm, fun _ => rfl, fun _ => rfl⟩

theorem subscriptions_sameButSpelling_iff {called called' data data' : Bytes}
    {stream stream' : String} {i j : Int}
    (hn : SameButCase called (Utf8.ofText Command.subscribeName))
    (hn' : SameButCase called' (Utf8.ofText Command.subscribeName))
    (ht : target data = .ok (stream, i)) (ht' : target data' = .ok (stream', j)) :
    SameButSpelling [called, data] [called', data'] ↔
      Command.subscribe stream i = .subscribe stream' j := by
  refine ⟨fun h => ?_, fun h => ?_⟩
  · obtain ⟨hm, -⟩ := List.cons.inj (h.subscription hn)
    rw [target_meaning ht, target_meaning ht'] at hm
    obtain ⟨hs, rfl⟩ := Prod.mk.inj hm
    rw [Utf8.ofText_injective hs]
  · obtain ⟨rfl, rfl⟩ := Command.subscribe.inj h
    refine ⟨rfl, hn.trans hn'.symm, fun hp => ?_, fun _ => ?_⟩
    · exact absurd (hp.symm.trans hn) (by decide)
    · simp only [List.tail_cons, List.map_cons, List.map_nil, target_meaning ht, target_meaning ht']

/-- **Nothing but spelling is lost.** Of two requests that are accepted the commands are the same
exactly if the arguments are, but for the case of the name and the spelling of the offset. -/
theorem decode_eq_iff_sameButSpelling {v w : Value} {c d : Command} (hv : decode v = .ok c)
    (hw : decode w = .ok d) :
    ∃ as bs, v = .request as ∧ w = .request bs ∧ (c = d ↔ SameButSpelling as bs) := by
  rcases decode_eq_ok_iff.1 hv with ⟨called, stream, event, rfl, hn, rfl⟩ |
    ⟨called, data, stream, i, rfl, hn, ht, rfl⟩
  · rcases decode_eq_ok_iff.1 hw with ⟨called', stream', event', rfl, hn', rfl⟩ |
      ⟨called', data', stream', j, rfl, -, -, rfl⟩
    · exact ⟨_, _, rfl, rfl, (publications_sameButSpelling_iff hn hn').symm⟩
    · exact ⟨_, _, rfl, rfl, fun h => Command.noConfusion h, fun h => nomatch h.length⟩
  · rcases decode_eq_ok_iff.1 hw with ⟨called', stream', event', rfl, -, rfl⟩ |
      ⟨called', data', stream', j, rfl, hn', ht', rfl⟩
    · exact ⟨_, _, rfl, rfl, fun h => Command.noConfusion h, fun h => nomatch h.length⟩
    · exact ⟨_, _, rfl, rfl, (subscriptions_sameButSpelling_iff hn hn' ht ht').symm⟩

/-- The tail left out in one request and written with a zero too many in the other. -/
theorem decode_eq_iff_sameButSpelling_tail :
    let v := Value.request [Utf8.ofText "subscribe", Utf8.ofText "é"]
    let w := Value.request [Utf8.ofText "SUBSCRIBE", Utf8.ofText "é:-01"]
    let c := Command.subscribe "é" Command.tail
    let d := Command.subscribe "é" (-1)
    decode v = .ok c ∧ decode w = .ok d ∧
      ∃ as bs, v = .request as ∧ w = .request bs ∧ (c = d ↔ SameButSpelling as bs) := by
  intro v w c d
  have hv : decode v = .ok c := by decide
  have hw : decode w = .ok d := by decide
  exact ⟨hv, hw, decode_eq_iff_sameButSpelling hv hw⟩

end Request

end StreamRequest
