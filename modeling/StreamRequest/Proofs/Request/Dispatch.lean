/-
What the name of a command decides, and what it leaves undecided.

A name is a publication's or a subscription's but for case, or it is a text that
is neither, or it is no text (`command_publish`, `command_subscribe`,
`command_unknown`, `text_of_not_wellFormed`). Only a text that is neither is
answered by "command not found", because operands are refused for other reasons
(`publication_eq_error`, `subscription_eq_error`). The case of the letters is seen
neither where a name is read nor where it is put into lower case, so it makes no
difference to names that are unknown, or no text, either (`command_of_sameButCase`).
-/
import StreamRequest.Proofs.Request.Target
import StreamRequest.Proofs.Text.CaseChange

namespace StreamRequest.Request

open Bytes (SameButCase)
open Results
open Utf8 (WellFormed wellFormed_ofText exists_ofText)

/-! ## Names -/

theorem command_unknown {spelled : String}
    (hp : ¬SameButCase (Utf8.ofText spelled) (Utf8.ofText Command.publishName))
    (hs : ¬SameButCase (Utf8.ofText spelled) (Utf8.ofText Command.subscribeName))
    (rest : List Bytes) :
    command (Utf8.ofText spelled :: rest) =
      .error (.unknownCommand (some (Casing.lower spelled))) := by
  rw [command_cons_ofText, if_neg fun h => hp (lower_eq_publishName_iff.1 h),
    if_neg fun h => hs (lower_eq_subscribeName_iff.1 h)]

/-! ## Operands -/

/-- Operands are refused by their number, as no text, or as no offset. -/
inductive OperandError : CommandError → Prop where
  | argumentCount : OperandError (.argumentCount expectedArguments)
  | notText (fault : Utf8.Fault) : OperandError (.notText fault)
  | badOffset (spelled : String) : OperandError (.badOffset spelled)

theorem text_eq_error {data : Bytes} {error : CommandError} (h : text data = .error error) :
    OperandError error := by
  obtain ⟨fault, -, rfl⟩ := mapError_eq_error_iff.1 h
  exact .notText fault

theorem target_eq_error {data : Bytes} {error : CommandError} (h : target data = .error error) :
    OperandError error := by
  unfold target at h
  split at h
  · obtain h | ⟨stream, -, h⟩ := bind_eq_error_iff.1 h
    · exact text_eq_error h
    · cases h
  · obtain h | ⟨stream, -, h⟩ := bind_eq_error_iff.1 h
    · exact text_eq_error h
    obtain h | ⟨spelled, -, h⟩ := bind_eq_error_iff.1 h
    · exact text_eq_error h
    obtain h | ⟨position, -, h⟩ := bind_eq_error_iff.1 h
    · have he := offset_eq_error fun i hi => by rw [hi] at h; cases h
      obtain rfl := Except.error.inj (he.symm.trans h)
      exact .badOffset spelled
    · cases h

theorem publication_eq_error {rest : List Bytes} {error : CommandError}
    (h : publication rest = .error error) : OperandError error := by
  unfold publication at h
  split at h
  · obtain h | ⟨name, -, h⟩ := bind_eq_error_iff.1 h
    · exact text_eq_error h
    · cases h
  · obtain rfl := Except.error.inj h
    exact .argumentCount

theorem subscription_eq_error {rest : List Bytes} {error : CommandError}
    (h : subscription rest = .error error) : OperandError error := by
  unfold subscription at h
  split at h
  · obtain h | ⟨found, -, h⟩ := bind_eq_error_iff.1 h
    · exact target_eq_error h
    · cases h
  · obtain rfl := Except.error.inj h
    exact .argumentCount

theorem publication_of_length_ne {rest : List Bytes} (h : rest.length ≠ 2) :
    publication rest = .error (.argumentCount expectedArguments) := by
  unfold publication
  split
  · exact absurd rfl h
  · rfl

theorem subscription_of_length_ne {rest : List Bytes} (h : rest.length ≠ 1) :
    subscription rest = .error (.argumentCount expectedArguments) := by
  unfold subscription
  split
  · exact absurd rfl h
  · rfl

/-! ## Commands -/

theorem command_eq_unknown_iff {called : Bytes} {rest : List Bytes} :
    (∃ name, command (called :: rest) = .error (.unknownCommand name)) ↔
      WellFormed called ∧ ¬SameButCase called (Utf8.ofText Command.publishName) ∧
        ¬SameButCase called (Utf8.ofText Command.subscribeName) := by
  constructor
  · intro h
    obtain ⟨name, h⟩ := h
    refine ⟨?_, fun hp => ?_, fun hs => ?_⟩
    · obtain h | ⟨spelled, hs, -⟩ := bind_eq_error_iff.1 h
      · cases text_eq_error h
      · exact text_eq_ok_iff.1 hs ▸ wellFormed_ofText spelled
    · rw [command_publish hp] at h
      cases publication_eq_error h
    · rw [command_subscribe hs] at h
      cases subscription_eq_error h
  · intro h
    obtain ⟨hw, hp, hs⟩ := h
    obtain ⟨spelled, rfl⟩ := exists_ofText hw
    exact ⟨_, command_unknown hp hs rest⟩

@[simp] theorem text_map_toAsciiLower (data : Bytes) :
    text (data.map UInt8.toAsciiLower) =
      (text data).map fun spelled => .ofList (spelled.toList.map Char.toLower) := by
  unfold text Utf8.toText
  rw [Utf8.decode_map_toAsciiLower]
  cases Utf8.decode data with
  | error fault => rfl
  | ok chars =>
    show Except.ok (String.ofList (chars.map Char.toLower)) =
      .ok (.ofList ((String.ofList chars).toList.map Char.toLower))
    rw [String.toList_ofList]

@[simp] theorem lower_map_toLower (spelled : String) :
    Casing.lower (.ofList (spelled.toList.map Char.toLower)) = Casing.lower spelled := by
  rw [Casing.lower, String.toList_ofList, Casing.lowerFrom_map_toLower, Casing.lower]

/-- A name decides no more than the same name in lower case. -/
theorem command_map_toAsciiLower (called : Bytes) (rest : List Bytes) :
    command (called.map UInt8.toAsciiLower :: rest) = command (called :: rest) := by
  rw [command, command, text_map_toAsciiLower, bind_map_ok]
  simp only [lower_map_toLower]

theorem command_of_sameButCase {called other : Bytes} (h : SameButCase called other)
    (rest : List Bytes) : command (called :: rest) = command (other :: rest) := by
  rw [← command_map_toAsciiLower called, ← command_map_toAsciiLower other, h]

/-- **What a name decides.** A command is not found exactly if its name is a text, and none of the
two names but for the case of ASCII letters. Under one of the two the number of the operands is
looked at first. The case of the letters makes no difference, to whatever name. Where the name is no
text, the refusals are the same in their defect and its place, which is all that a fault has: the
bytes it was found in, which differ in case, are not part of it. -/
theorem command_by_its_name (called : Bytes) (rest : List Bytes) :
    ((∃ name, command (called :: rest) = .error (.unknownCommand name)) ↔
      WellFormed called ∧ ¬SameButCase called (Utf8.ofText "publish") ∧
        ¬SameButCase called (Utf8.ofText "subscribe")) ∧
    (SameButCase called (Utf8.ofText "publish") → rest.length ≠ 2 →
      command (called :: rest) = .error (.argumentCount 2)) ∧
    (SameButCase called (Utf8.ofText "subscribe") → rest.length ≠ 1 →
      command (called :: rest) = .error (.argumentCount 2)) ∧
    ∀ other, SameButCase called other → command (called :: rest) = command (other :: rest) := by
  refine ⟨command_eq_unknown_iff, fun hn hl => ?_, fun hn hl => ?_, fun other h => ?_⟩
  · rw [command_publish hn, publication_of_length_ne hl]
    rfl
  · rw [command_subscribe hn, subscription_of_length_ne hl]
    rfl
  · exact command_of_sameButCase h rest

/-- A name with a long s; a publication whose one operand is no text; a subscription without
operands; a sigma, final but for what follows it, before a letter and before its capital; and a
broken name in two cases. -/
theorem command_by_its_name_lookalikes :
    (WellFormed (Utf8.ofText "ſubſcribe") ∧
      ¬SameButCase (Utf8.ofText "ſubſcribe") (Utf8.ofText "publish") ∧
        ¬SameButCase (Utf8.ofText "ſubſcribe") (Utf8.ofText "subscribe")) ∧
      SameButCase (Utf8.ofText "PuBLISH") (Utf8.ofText "publish") ∧
      SameButCase (Utf8.ofText "subSCRIBE") (Utf8.ofText "subscribe") ∧
      SameButCase (Utf8.ofText "aΣb") (Utf8.ofText "AΣB") ∧
      SameButCase [0x61, 0xC3, 0x62] [0x41, 0xC3, 0x42] ∧
      (∃ name, command [Utf8.ofText "ſubſcribe", [0x73]] = .error (.unknownCommand name)) ∧
      command [Utf8.ofText "PuBLISH", [0xFF]] = .error (.argumentCount 2) ∧
      command [Utf8.ofText "subSCRIBE"] = .error (.argumentCount 2) ∧
      command [Utf8.ofText "aΣb"] = command [Utf8.ofText "AΣB"] ∧
      command [[0x61, 0xC3, 0x62]] = command [[0x41, 0xC3, 0x42]] := by
  have hlong : WellFormed (Utf8.ofText "ſubſcribe") ∧
      ¬SameButCase (Utf8.ofText "ſubſcribe") (Utf8.ofText "publish") ∧
        ¬SameButCase (Utf8.ofText "ſubſcribe") (Utf8.ofText "subscribe") :=
    ⟨wellFormed_ofText _, by decide, by decide⟩
  have hpublish : SameButCase (Utf8.ofText "PuBLISH") (Utf8.ofText "publish") := by decide
  have hsubscribe : SameButCase (Utf8.ofText "subSCRIBE") (Utf8.ofText "subscribe") := by decide
  have hsigma : SameButCase (Utf8.ofText "aΣb") (Utf8.ofText "AΣB") := by decide
  have hbroken : SameButCase [0x61, 0xC3, 0x62] [0x41, 0xC3, 0x42] := by decide
  exact ⟨hlong, hpublish, hsubscribe, hsigma, hbroken,
    (command_by_its_name _ _).1.2 hlong,
    (command_by_its_name _ _).2.1 hpublish (by decide),
    (command_by_its_name _ _).2.2.1 hsubscribe (by decide),
    (command_by_its_name _ _).2.2.2 _ hsigma,
    (command_by_its_name _ _).2.2.2 _ hbroken⟩

end StreamRequest.Request
