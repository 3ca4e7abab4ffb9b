/-
Names of commands, and what is read under them.

Bytes that are a name but for the case of their letters are read as text whose
lower case is the name (`text_called`). Nothing else is: a text whose lower case
is a name is ASCII, because no name has a `k` in it, the one letter that a
character beyond ASCII becomes (`sameButCase_of_lower`). So the name alone sends
the operands where they go (`command_publish`, `command_subscribe`), and what is
accepted can be said without a word about lower case (`decode_eq_ok_iff`).
-/
import StreamRequest.Proofs.Request.Reading
import StreamRequest.Proofs.Text.AsciiCase

namespace StreamRequest.Request

open Bytes (SameButCase)
open Results

/-- A name in ASCII without capitals. -/
def PlainName (name : String) : Prop :=
  ∀ b ∈ Utf8.ofText name, b.toNat < 0x80 ∧ b.toAsciiLower = b

theorem plainName_publishName : PlainName Command.publishName := by
  show ∀ b ∈ Utf8.ofText Command.publishName, _
  decide +kernel

theorem plainName_subscribeName : PlainName Command.subscribeName := by
  show ∀ b ∈ Utf8.ofText Command.subscribeName, _
  decide +kernel

theorem PlainName.map_toAsciiLower {name : String} (hp : PlainName name) :
    (Utf8.ofText name).map UInt8.toAsciiLower = Utf8.ofText name := by
  rw [List.map_congr_left fun b hb => (hp b hb).2]
  exact List.map_id' _

/-- A name is read in any mixture of cases, and is itself in lower case. -/
theorem text_called {name : String} (hp : PlainName name) {called : Bytes}
    (h : SameButCase called (Utf8.ofText name)) :
    ∃ spelled, Utf8.ofText spelled = called ∧ Casing.lower spelled = name := by
  have hascii : ∀ b ∈ called, b.toNat < 0x80 := h.ascii fun b hb => (hp b hb).1
  have hlower : called.map UInt8.toAsciiLower = Utf8.ofText name := by
    rw [h, hp.map_toAsciiLower]
  have hname : ∀ b ∈ Utf8.ofText name, b.toNat < 0x80 := fun b hb => (hp b hb).1
  refine ⟨.ofList (called.map Utf8.asciiChar), Utf8.ofText_ascii hascii, ?_⟩
  rw [Casing.lower_ascii hascii, hlower]
  exact Utf8.ofText_injective (Utf8.ofText_ascii hname)

/-- No text but the name in a mixture of cases has the name for its lower case. -/
theorem sameButCase_of_lower {name : String} (hp : PlainName name) (hk : 'k' ∉ name.toList)
    {spelled : String} (h : Casing.lower spelled = name) :
    SameButCase (Utf8.ofText spelled) (Utf8.ofText name) := by
  have hname : ∀ d ∈ name.toList, d.toNat < 0x80 := Utf8.encode_ascii_iff.1 fun b hb => (hp b hb).1
  have hchars : ∀ d ∈ Casing.lowerFrom false spelled.toList, d.toNat < 0x80 ∧ d ≠ 'k' := by
    intro d hd
    have hd : d ∈ name.toList := by
      rwa [← h, Casing.lower, String.toList_ofList]
    exact ⟨hname d hd, fun e => hk (e ▸ hd)⟩
  have hascii : ∀ b ∈ Utf8.ofText spelled, b.toNat < 0x80 :=
    Utf8.encode_ascii_iff.2 (Casing.ascii_of_lowerFrom hchars)
  have hspelled : .ofList ((Utf8.ofText spelled).map Utf8.asciiChar) = spelled :=
    Utf8.ofText_injective (Utf8.ofText_ascii hascii)
  have hlow : ∀ b ∈ (Utf8.ofText spelled).map UInt8.toAsciiLower, b.toNat < 0x80 := by
    intro b hb
    obtain ⟨x, hx, rfl⟩ := List.mem_map.1 hb
    exact (Bytes.toAsciiLower_lt_iff x).2 (hascii x hx)
  rw [← hspelled, Casing.lower_ascii hascii] at h
  rw [SameButCase, hp.map_toAsciiLower, ← h, Utf8.ofText_ascii hlow]

/-- **What a name is**: a text that is it, but for the case of its letters. -/
theorem lower_eq_iff {name : String} (hp : PlainName name) (hk : 'k' ∉ name.toList)
    {spelled : String} :
    Casing.lower spelled = name ↔ SameButCase (Utf8.ofText spelled) (Utf8.ofText name) := by
  refine ⟨sameButCase_of_lower hp hk, fun h => ?_⟩
  obtain ⟨other, ho, hl⟩ := text_called hp h
  rwa [Utf8.ofText_injective ho] at hl

theorem lower_eq_publishName_iff {spelled : String} :
    Casing.lower spelled = Command.publishName ↔
      SameButCase (Utf8.ofText spelled) (Utf8.ofText Command.publishName) :=
  lower_eq_iff plainName_publishName (by decide)

theorem lower_eq_subscribeName_iff {spelled : String} :
    Casing.lower spelled = Command.subscribeName ↔
      SameButCase (Utf8.ofText spelled) (Utf8.ofText Command.subscribeName) :=
  lower_eq_iff plainName_subscribeName (by decide)

/-! ## What a name sends its operands to -/

theorem command_cons_ofText (spelled : String) (rest : List Bytes) :
    command (Utf8.ofText spelled :: rest) =
      if Casing.lower spelled = Command.publishName then publication rest
      else if Casing.lower spelled = Command.subscribeName then subscription rest
      else .error (.unknownCommand (some (Casing.lower spelled))) := by
  rw [command, text_ofText]
  rfl

theorem command_publish {called : Bytes} (h : SameButCase called (Utf8.ofText Command.publishName))
    (rest : List Bytes) : command (called :: rest) = publication rest := by
  obtain ⟨spelled, rfl, hl⟩ := text_called plainName_publishName h
  rw [command_cons_ofText, if_pos hl]

theorem command_subscribe {called : Bytes}
    (h : SameButCase called (Utf8.ofText Command.subscribeName)) (rest : List Bytes) :
    command (called :: rest) = subscription rest := by
  have distinct : Command.subscribeName ≠ Command.publishName := by decide
  obtain ⟨spelled, rfl, hl⟩ := text_called plainName_subscribeName h
  rw [command_cons_ofText, if_neg fun hp => distinct (hl.symm.trans hp), if_pos hl]

/-! ## Requests that are accepted -/

theorem command_eq_ok_iff {args : List Bytes} {c : Command} :
    command args = .ok c ↔
      ∃ called rest, args = called :: rest ∧
        (SameButCase called (Utf8.ofText Command.publishName) ∧ publication rest = .ok c ∨
          SameButCase called (Utf8.ofText Command.subscribeName) ∧ subscription rest = .ok c) := by
  refine ⟨fun h => ?_, fun h => ?_⟩
  · cases args with
    | nil => cases h
    | cons first rest =>
      obtain ⟨spelled, rfl, ⟨hn, h⟩ | ⟨hn, h⟩⟩ := command_cons_eq_ok_iff.1 h
      · exact ⟨_, rest, rfl, .inl ⟨lower_eq_publishName_iff.1 hn, h⟩⟩
      · exact ⟨_, rest, rfl, .inr ⟨lower_eq_subscribeName_iff.1 hn, h⟩⟩
  · obtain ⟨called, rest, rfl, ⟨hn, h⟩ | ⟨hn, h⟩⟩ := h
    · rwa [command_publish hn]
    · rwa [command_subscribe hn]

/-- **What is accepted**: a publication of three arguments or a subscription of two, under a name
that is its own but for case. -/
theorem decode_eq_ok_iff {value : Value} {c : Command} :
    decode value = .ok c ↔
      (∃ called stream event, value = .request [called, Utf8.ofText stream, event] ∧
        SameButCase called (Utf8.ofText Command.publishName) ∧ c = .publish stream event) ∨
      ∃ called data stream i, value = .request [called, data] ∧
        SameButCase called (Utf8.ofText Command.subscribeName) ∧ target data = .ok (stream, i) ∧
          c = .subscribe stream i := by
  simp only [decode, bind_eq_ok_iff, mapError_eq_ok_iff, arguments_eq_ok_iff, command_eq_ok_iff,
    publication_eq_ok_iff, subscription_eq_ok_iff]
  refine ⟨fun h => ?_, fun h => ?_⟩
  · obtain ⟨-, rfl, called, -, rfl, ⟨hn, stream, event, rfl, rfl⟩ |
      ⟨hn, data, stream, i, rfl, ht, rfl⟩⟩ := h
    · exact .inl ⟨called, stream, event, rfl, hn, rfl⟩
    · exact .inr ⟨called, data, stream, i, rfl, hn, ht, rfl⟩
  · obtain ⟨called, stream, event, rfl, hn, rfl⟩ | ⟨called, data, stream, i, rfl, hn, ht, rfl⟩ := h
    · exact ⟨_, rfl, called, _, rfl, .inl ⟨hn, stream, event, rfl, rfl⟩⟩
    · exact ⟨_, rfl, called, _, rfl, .inr ⟨hn, data, stream, i, rfl, ht, rfl⟩⟩

end StreamRequest.Request
