/-
Requests that are refused because a part of them is no text.

Five parts are read as text: a name, the stream of a publication, and of a target all
of it if it has no colon, or else what stands before its first colon and what stands
behind it (`ReadAsText`). A request is refused as no text exactly if one of these is
none, and with the fault of that part alone (`command_eq_notText_iff`). What the
fault says of the part is exact.
-/
import StreamRequest.Proofs.Request.Dispatch
import StreamRequest.Proofs.Text.Utf8Cause

namespace StreamRequest.Request

open Bytes (SameButCase)
open Results

/-! ## Parts -/

/-- The parts of arguments that are read as text. The one behind the colon of a target is read if the
one before it is a text. -/
inductive ReadAsText : List Bytes → Bytes → Prop where
  | name (called : Bytes) (rest : List Bytes) : ReadAsText (called :: rest) called
  | stream {called : Bytes} (h : SameButCase called (Utf8.ofText "publish"))
      (stream event : Bytes) : ReadAsText [called, stream, event] stream
  | target {called : Bytes} (h : SameButCase called (Utf8.ofText "subscribe")) {data : Bytes}
      (hn : Command.separator ∉ data) : ReadAsText [called, data] data
  | beforeColon {called : Bytes} (h : SameButCase called (Utf8.ofText "subscribe"))
      {before : Bytes} (hn : Command.separator ∉ before) (after : Bytes) :
      ReadAsText [called, before ++ Command.separator :: after] before
  | behindColon {called : Bytes} (h : SameButCase called (Utf8.ofText "subscribe"))
      {stream : String} (hc : ':' ∉ stream.toList) (after : Bytes) :
      ReadAsText [called, Utf8.ofText stream ++ Command.separator :: after] after

/-- An offset is refused for what its text is, never for being no text. -/
theorem offset_ne_notText (spelled : String) (fault : Utf8.Fault) :
    offset spelled ≠ .error (.notText fault) := by
  intro h
  have he := offset_eq_error fun i hi => by rw [hi] at h; cases h
  cases he.symm.trans h

theorem publication_eq_notText_iff {rest : List Bytes} {fault : Utf8.Fault} :
    publication rest = .error (.notText fault) ↔
      ∃ stream event, rest = [stream, event] ∧ text stream = .error (.notText fault) := by
  constructor
  · intro h
    unfold publication at h
    split at h
    · rename_i stream event
      obtain h | ⟨name, -, h⟩ := bind_eq_error_iff.1 h
      · exact ⟨stream, event, rfl, h⟩
      · cases h
    · cases h
  · intro h
    obtain ⟨stream, event, rfl, h⟩ := h
    exact bind_eq_error_iff.2 (.inl h)

theorem target_eq_notText_iff {data : Bytes} {fault : Utf8.Fault} :
    target data = .error (.notText fault) ↔
      Command.separator ∉ data ∧ text data = .error (.notText fault) ∨
      ∃ before after, Command.separator ∉ before ∧ data = before ++ Command.separator :: after ∧
        (text before = .error (.notText fault) ∨
          ∃ stream, text before = .ok stream ∧ text after = .error (.notText fault)) := by
  constructor
  · intro h
    unfold target at h
    rcases Bytes.splitFirst_cases Command.separator data with
      ⟨hn, hs⟩ | ⟨before, after, hn, rfl, hs⟩
    · simp only [hs] at h
      obtain h | ⟨stream, -, h⟩ := bind_eq_error_iff.1 h
      · exact .inl ⟨hn, h⟩
      · cases h
    · simp only [hs] at h
      refine .inr ⟨before, after, hn, rfl, ?_⟩
      obtain h | ⟨stream, ht, h⟩ := bind_eq_error_iff.1 h
      · exact .inl h
      obtain h | ⟨spelled, -, h⟩ := bind_eq_error_iff.1 h
      · exact .inr ⟨stream, ht, h⟩
      obtain h | ⟨position, -, h⟩ := bind_eq_error_iff.1 h
      · exact absurd h (offset_ne_notText spelled fault)
      · cases h
  · intro h
    unfold target
    obtain ⟨hn, h⟩ | ⟨before, after, hn, rfl, h⟩ := h
    · simp only [Bytes.splitFirst_of_not_mem hn]
      exact bind_eq_error_iff.2 (.inl h)
    · simp only [Bytes.splitFirst_append hn]
      obtain h | ⟨stream, ht, h⟩ := h
      · exact bind_eq_error_iff.2 (.inl h)
      · exact bind_eq_error_iff.2 (.inr ⟨stream, ht, bind_eq_error_iff.2 (.inl h)⟩)

theorem subscription_eq_notText_iff {rest : List Bytes} {fault : Utf8.Fault} :
    subscription rest = .error (.notText fault) ↔
      ∃ data, rest = [data] ∧ target data = .error (.notText fault) := by
  constructor
  · intro h
    unfold subscription at h
    split at h
    · rename_i data
      obtain h | ⟨found, -, h⟩ := bind_eq_error_iff.1 h
      · exact ⟨data, rfl, h⟩
      · cases h
    · cases h
  · intro h
    obtain ⟨data, rfl, h⟩ := h
    exact bind_eq_error_iff.2 (.inl h)

/-! ## Requests -/

theorem command_of_readAsText {args : List Bytes} {data : Bytes} {fault : Utf8.Fault}
    (hr : ReadAsText args data) (h : text data = .error (.notText fault)) :
    command args = .error (.notText fault) := by
  cases hr with
  | name rest => exact bind_eq_error_iff.2 (.inl h)
  | stream hp event =>
    rw [command_publish hp]
    exact publication_eq_notText_iff.2 ⟨_, _, rfl, h⟩
  | target hs hn =>
    rw [command_subscribe hs]
    exact subscription_eq_notText_iff.2 ⟨_, rfl, target_eq_notText_iff.2 (.inl ⟨hn, h⟩)⟩
  | beforeColon hs hn after =>
    rw [command_subscribe hs]
    exact subscription_eq_notText_iff.2
      ⟨_, rfl, target_eq_notText_iff.2 (.inr ⟨_, _, hn, rfl, .inl h⟩)⟩
  | behindColon hs hc after =>
    have hn := fun h => hc (separator_mem_iff.1 h)
    rw [command_subscribe hs]
    exact subscription_eq_notText_iff.2
      ⟨_, rfl, target_eq_notText_iff.2 (.inr ⟨_, _, hn, rfl, .inr ⟨_, text_ofText _, h⟩⟩)⟩

theorem readAsText_of_command {args : List Bytes} {fault : Utf8.Fault}
    (h : command args = .error (.notText fault)) :
    ∃ data, ReadAsText args data ∧ text data = .error (.notText fault) := by
  cases args with
  | nil => cases h
  | cons called rest =>
    obtain hf | ⟨spelled, hspelled, -⟩ := bind_eq_error_iff.1 h
    · exact ⟨called, .name called rest, hf⟩
    by_cases hp : SameButCase called (Utf8.ofText Command.publishName)
    · rw [command_publish hp] at h
      obtain ⟨stream, event, rfl, hf⟩ := publication_eq_notText_iff.1 h
      exact ⟨stream, .stream hp stream event, hf⟩
    by_cases hs : SameButCase called (Utf8.ofText Command.subscribeName)
    · rw [command_subscribe hs] at h
      obtain ⟨data, rfl, htarget⟩ := subscription_eq_notText_iff.1 h
      obtain ⟨hn, hf⟩ | ⟨before, after, hn, rfl, hparts⟩ := target_eq_notText_iff.1 htarget
      · exact ⟨data, .target hs hn, hf⟩
      obtain hf | ⟨stream, ht, hf⟩ := hparts
      · exact ⟨before, .beforeColon hs hn after, hf⟩
      · obtain rfl := text_eq_ok_iff.1 ht
        exact ⟨after, .behindColon hs (fun hc => hn (separator_mem_iff.2 hc)) after, hf⟩
    · obtain rfl := text_eq_ok_iff.1 hspelled
      rw [command_unknown hp hs] at h
      cases h

theorem command_eq_notText_iff {args : List Bytes} {fault : Utf8.Fault} :
    command args = .error (.notText fault) ↔
      ∃ data, ReadAsText args data ∧ text data = .error (.notText fault) := by
  refine ⟨readAsText_of_command, fun h => ?_⟩
  obtain ⟨data, hr, h⟩ := h
  exact command_of_readAsText hr h

/-- **The cause of a refusal as no text is exact.** Data are read as a text exactly if they are its
bytes, and else refused with a fault that explains them. Arguments are refused so exactly if a part
of them is that is read as text, and with the fault of that part. -/
theorem cause_is_exact :
    (∀ (data : Bytes) (name : String), text data = .ok name ↔ Utf8.ofText name = data) ∧
    (∀ (data : Bytes) (error : CommandError), text data = .error error →
      ∃ fault, error = .notText fault ∧ fault.Explains data) ∧
    ∀ (args : List Bytes) (fault : Utf8.Fault), command args = .error (.notText fault) ↔
      ∃ data, ReadAsText args data ∧ text data = .error (.notText fault) := by
  refine ⟨fun _ _ => text_eq_ok_iff, fun data error h => ?_, fun _ _ => command_eq_notText_iff⟩
  obtain ⟨fault, hf, rfl⟩ := mapError_eq_error_iff.1 h
  exact ⟨fault, rfl, Utf8.explains_of_decode (Utf8.toText_eq_error_iff.1 hf)⟩

/-- An overlong form behind a letter, which is a broken character and not a character cut short; as a
stream, and behind the colon of a target, from where its bytes are counted. -/
theorem cause_is_exact_overlong :
    let overlong : Bytes := [0x61, 0xE0, 0x80]
    let fault : Utf8.Fault := ⟨.invalidContinuation, 1, 2⟩
    text overlong = .error (.notText fault) ∧ fault.Explains overlong ∧
      command [Utf8.ofText "Publish", overlong, []] = .error (.notText fault) ∧
      command [Utf8.ofText "SUBSCRIBE", Utf8.ofText "é:" ++ overlong] = .error (.notText fault) := by
  intro overlong fault
  have hf : text overlong = .error (.notText fault) := by decide
  have hcolon : Utf8.ofText "é:" ++ overlong = Utf8.ofText "é" ++ Command.separator :: overlong := by
    decide
  obtain ⟨found, hfound, hexplains⟩ := cause_is_exact.2.1 overlong _ hf
  obtain rfl := CommandError.notText.inj hfound
  refine ⟨hf, hexplains, ?_, ?_⟩
  · exact (cause_is_exact.2.2 _ _).2 ⟨_, .stream (by decide) overlong [], hf⟩
  · rw [hcolon]
    exact (cause_is_exact.2.2 _ _).2 ⟨_, .behindColon (by decide) (by decide) overlong, hf⟩

end StreamRequest.Request
