/-
What each step from a value to a command accepts, said without the step: one
statement for arguments, texts, offsets, targets and the two commands.

A target is taken apart as bytes, before either part is read. The text of a
stream that was read has no colon, because the bytes before the first colon
have none (`target_eq_ok_iff`).
-/
import StreamRequest.Proofs.Results
import StreamRequest.Proofs.Text.Ascii
import StreamRequest.Request

namespace StreamRequest

namespace Bytes

theorem splitFirst_cases (mark : UInt8) (data : Bytes) :
    (mark ∉ data ∧ splitFirst mark data = (data, none)) ∨
      ∃ before after, mark ∉ before ∧ data = before ++ mark :: after ∧
        splitFirst mark data = (before, some after) := by
  by_cases h : mark ∈ data
  · obtain ⟨before, after, rfl, hb⟩ := List.eq_append_cons_of_mem h
    exact .inr ⟨before, after, hb, rfl, splitFirst_append hb after⟩
  · exact .inl ⟨h, splitFirst_of_not_mem h⟩

end Bytes

namespace Request

open Results

/-! ## Arguments -/

theorem bulkItems_map (index : Nat) (args : List Bytes) :
    bulkItems index (args.map .bulk) = .ok args := by
  induction args generalizing index with
  | nil => rfl
  | cons data rest ih =>
    rw [List.map_cons, bulkItems, ih]
    rfl

@[simp] theorem arguments_request (args : List Bytes) : arguments (.request args) = .ok args :=
  bulkItems_map 0 args

theorem bulkItems_eq_ok_iff {index : Nat} {items : List Value} {args : List Bytes} :
    bulkItems index items = .ok args ↔ items = args.map .bulk := by
  refine ⟨fun h => ?_, fun h => h ▸ bulkItems_map index args⟩
  induction items generalizing index args with
  | nil =>
    obtain rfl := Except.ok.inj h
    rfl
  | cons item rest ih =>
    cases item with
    | bulk data =>
      rw [bulkItems, map_eq_ok_iff] at h
      obtain ⟨others, ho, rfl⟩ := h
      rw [ih ho, List.map_cons]
    | simple | error | integer | nullBulk | array | nullArray => cases h

theorem arguments_eq_ok_iff {value : Value} {args : List Bytes} :
    arguments value = .ok args ↔ value = .request args := by
  refine ⟨fun h => ?_, fun h => h ▸ arguments_request args⟩
  cases value with
  | array items => exact congrArg Value.array (bulkItems_eq_ok_iff.1 h)
  | simple | error | integer | bulk | nullBulk | nullArray => cases h

theorem decode_request_eq (args : List Bytes) :
    decode (.request args) = (command args).mapError .command := by
  rw [decode, arguments_request]
  rfl

/-! ## Texts and offsets -/

theorem text_eq_ok_iff {data : Bytes} {name : String} :
    text data = .ok name ↔ Utf8.ofText name = data := by
  rw [text, mapError_eq_ok_iff, Utf8.toText_eq_ok_iff]

@[simp] theorem text_ofText (name : String) : text (Utf8.ofText name) = .ok name :=
  text_eq_ok_iff.2 rfl

theorem offset_eq_ok_iff {spelled : String} {i : Int} :
    offset spelled = .ok i ↔
      Decimal.readInt? offsetDigits spelled.toList = some i ∧
        Command.tail ≤ i ∧ i ≤ Command.maxOffset := by
  unfold offset
  split
  · rename_i j hj
    rw [hj]
    split
    · rename_i hr
      refine ⟨fun h => ?_, fun h => ?_⟩
      · obtain rfl := Except.ok.inj h
        exact ⟨rfl, hr⟩
      · rw [Option.some.inj h.1]
    · rename_i hr
      refine ⟨fun h => ?_, fun h => ?_⟩
      · cases h
      · obtain ⟨h, hi⟩ := h
        exact absurd (Option.some.inj h ▸ hi) hr
  · rename_i hj
    rw [hj]
    refine ⟨fun h => ?_, fun h => ?_⟩
    · cases h
    · cases h.1

/-! ## Targets -/

/-- The separator is a colon, which is ASCII: it is in the bytes of a text if it is in the text. -/
theorem separator_mem_iff {stream : String} :
    Command.separator ∈ Utf8.ofText stream ↔ ':' ∈ stream.toList :=
  Utf8.mem_encode_iff (c := ':') (by decide)

/-- **What a target is**: a stream alone, or a stream and an offset behind the first colon. -/
theorem target_eq_ok_iff {data : Bytes} {stream : String} {i : Int} :
    target data = .ok (stream, i) ↔
      ':' ∉ stream.toList ∧
        (data = Utf8.ofText stream ∧ i = Command.tail ∨
          ∃ spelled, data = Utf8.ofText stream ++ Command.separator :: Utf8.ofText spelled ∧
            offset spelled = .ok i) := by
  refine ⟨fun h => ?_, fun h => ?_⟩
  · unfold target at h
    rcases Bytes.splitFirst_cases Command.separator data with
      ⟨hn, hs⟩ | ⟨before, after, hn, rfl, hs⟩
    · simp only [hs, bind_eq_ok_iff, text_eq_ok_iff] at h
      obtain ⟨name, rfl, h⟩ := h
      obtain ⟨rfl, rfl⟩ := Prod.mk.inj (Except.ok.inj h)
      exact ⟨fun hc => hn (separator_mem_iff.2 hc), .inl ⟨rfl, rfl⟩⟩
    · simp only [hs, bind_eq_ok_iff, text_eq_ok_iff] at h
      obtain ⟨name, rfl, spelled, rfl, j, hj, h⟩ := h
      obtain ⟨rfl, rfl⟩ := Prod.mk.inj (Except.ok.inj h)
      exact ⟨fun hc => hn (separator_mem_iff.2 hc), .inr ⟨spelled, rfl, hj⟩⟩
  · obtain ⟨hc, h⟩ := h
    have hn : Command.separator ∉ Utf8.ofText stream := fun h => hc (separator_mem_iff.1 h)
    unfold target
    rcases h with ⟨rfl, rfl⟩ | ⟨spelled, rfl, hi⟩
    · simp only [Bytes.splitFirst_of_not_mem hn, text_ofText]
      rfl
    · simp only [Bytes.splitFirst_append hn, text_ofText]
      show (offset spelled >>= fun position => .ok (stream, position)) = _
      rw [hi]
      rfl

/-! ## Commands -/

theorem publication_eq_ok_iff {rest : List Bytes} {c : Command} :
    publication rest = .ok c ↔
      ∃ stream event, rest = [Utf8.ofText stream, event] ∧ c = .publish stream event := by
  refine ⟨fun h => ?_, fun h => ?_⟩
  · unfold publication at h
    split at h
    · simp only [bind_eq_ok_iff, text_eq_ok_iff] at h
      obtain ⟨stream, rfl, h⟩ := h
      exact ⟨stream, _, rfl, (Except.ok.inj h).symm⟩
    · cases h
  · obtain ⟨stream, event, rfl, rfl⟩ := h
    rw [publication, text_ofText]
    rfl

theorem subscription_eq_ok_iff {rest : List Bytes} {c : Command} :
    subscription rest = .ok c ↔
      ∃ data stream i, rest = [data] ∧ target data = .ok (stream, i) ∧ c = .subscribe stream i := by
  refine ⟨fun h => ?_, fun h => ?_⟩
  · unfold subscription at h
    split at h
    · rename_i data
      simp only [bind_eq_ok_iff] at h
      obtain ⟨⟨stream, i⟩, ht, h⟩ := h
      exact ⟨data, stream, i, rfl, ht, (Except.ok.inj h).symm⟩
    · cases h
  · obtain ⟨data, stream, i, rfl, ht, rfl⟩ := h
    rw [subscription, ht]
    rfl

/-- The name is read first, and in lower case decides how the rest is read. -/
theorem command_cons_eq_ok_iff {first : Bytes} {rest : List Bytes} {c : Command} :
    command (first :: rest) = .ok c ↔
      ∃ called, Utf8.ofText called = first ∧
        (Casing.lower called = Command.publishName ∧ publication rest = .ok c ∨
          Casing.lower called = Command.subscribeName ∧ subscription rest = .ok c) := by
  simp only [command, bind_eq_ok_iff, text_eq_ok_iff]
  have distinct : Command.publishName ≠ Command.subscribeName := by decide
  refine ⟨fun h => ?_, fun h => ?_⟩
  · obtain ⟨called, hc, h⟩ := h
    split at h
    · rename_i hp
      exact ⟨called, hc, .inl ⟨hp, h⟩⟩
    split at h
    · rename_i hs
      exact ⟨called, hc, .inr ⟨hs, h⟩⟩
    · cases h
  · obtain ⟨called, hc, ⟨hp, h⟩ | ⟨hs, h⟩⟩ := h
    · exact ⟨called, hc, by rwa [if_pos hp]⟩
    · exact ⟨called, hc, by rwa [if_neg fun hp => distinct (hp.symm.trans hs), if_pos hs]⟩

end Request

end StreamRequest
