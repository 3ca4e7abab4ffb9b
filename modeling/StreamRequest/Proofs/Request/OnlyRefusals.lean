/-
Nothing but a refusal ends the way from a value to a command.

`Attempt` keeps every failure that a step could end in; each step is shown to
be the step of `Request` that has no such failure. Three of them rest on an
argument: a spelling with too many digits is refused before anyone sees it
(`offset_eq`), the stream and the offset of a target that was read are what the
class of a subscription takes (`target_valid`, `subscription_record`), and the
text before a split character is text (`leftover_eq`).
-/
import StreamRequest.Proofs.Record
import StreamRequest.Proofs.Request.Attempt
import StreamRequest.Proofs.Request.Reading
import StreamRequest.Proofs.Text.Utf8Fault

namespace StreamRequest

/-! ## Commands that are read -/

namespace Request

open Results

theorem target_valid {data : Bytes} {stream : String} {i : Int} (h : target data = .ok (stream, i)) :
    (Command.subscribe stream i).Valid := by
  obtain ⟨hc, ⟨-, rfl⟩ | ⟨spelled, -, hi⟩⟩ := target_eq_ok_iff.1 h
  · exact ⟨hc, Int.le_refl _, by decide⟩
  · obtain ⟨-, hl, hm⟩ := offset_eq_ok_iff.1 hi
    exact ⟨hc, hl, hm⟩

theorem command_valid {args : List Bytes} {c : Command} (h : command args = .ok c) : c.Valid := by
  cases args with
  | nil => cases h
  | cons first rest =>
    obtain ⟨called, -, ⟨-, hp⟩ | ⟨-, hs⟩⟩ := command_cons_eq_ok_iff.1 h
    · obtain ⟨stream, event, -, rfl⟩ := publication_eq_ok_iff.1 hp
      exact trivial
    · obtain ⟨data, stream, i, -, ht, rfl⟩ := subscription_eq_ok_iff.1 hs
      exact target_valid ht

end Request

/-! ## Commands that are built -/

namespace Attempt

open Results

@[simp] theorem built_draft (c : Command) : built (.ok c.draft) = .ok c := by
  show c.draft.command.mapError Failure.surrogates = .ok c
  rw [Draft.command_draft]
  rfl

@[simp] theorem publication_record (stream : String) (event : Bytes) :
    (publicationRecord stream event).publication = .ok (Command.publish stream event).draft := rfl

/-- The class of a subscription takes what may be subscribed to, and nothing else. -/
theorem subscription_record {stream : String} {i : Int} :
    (subscriptionRecord stream i).subscription = .ok (Command.subscribe stream i).draft ↔
      (Command.subscribe stream i).Valid := by
  rw [← Draft.valid_draft, Record.subscription_eq_ok_iff]
  constructor
  · rintro ⟨s, j, hs, hi, hd⟩
    rw [hd]
    exact ⟨(Record.plainStream_eq_ok_iff.1 hs).2.1, (Record.plainStream_eq_ok_iff.1 hs).2.2,
      Record.bounds_of_offsetField hi⟩
  · rintro ⟨hu, hc, hb⟩
    exact ⟨stream, i, Record.plainStream_eq_ok_iff.2 ⟨rfl, hu, hc⟩,
      Record.integerIn_eq_ok_iff.2 ⟨rfl, hb⟩, rfl⟩

/-! ## Steps without other failures -/

/-- A step that refuses arguments and does not fail otherwise. -/
def lift (x : Except CommandError α) : Except Failure α :=
  x.mapError fun error => .refused (.command error)

theorem lift_bind (x : Except CommandError α) (f : α → Except CommandError β) :
    lift (x >>= f) = lift x >>= fun a => lift (f a) := by
  cases x <;> rfl

@[simp] theorem text_eq (data : Bytes) : text data = lift (Request.text data) := by
  unfold text Request.text
  cases Utf8.toText data <;> rfl

/-- A conversion that fails is refused in the same words as a text that is no spelling. -/
@[simp] theorem offset_eq (spelled : String) : offset spelled = lift (Request.offset spelled) := by
  unfold offset Request.offset
  rw [Decimal.readInt?_eq]
  cases Decimal.Spelling.ofText? spelled.toList with
  | none => rfl
  | some spelling =>
    rw [Option.bind_some]
    simp only [convert]
    by_cases hd : spelling.digits.length ≤ Request.offsetDigits
    · rw [if_pos hd, if_pos hd]
      show (if _ then _ else _) = lift (if _ then _ else _)
      by_cases hr : Command.tail ≤ spelling.integer ∧ spelling.integer ≤ Command.maxOffset
      · rw [if_pos hr, if_neg (by omega)]
        rfl
      · rw [if_neg hr, if_pos (by omega)]
        rfl
    · rw [if_neg hd, if_neg hd]
      rfl

@[simp] theorem target_eq (data : Bytes) : target data = lift (Request.target data) := by
  unfold target Request.target
  rcases Bytes.splitFirst_cases Command.separator data with ⟨-, hs⟩ | ⟨before, after, -, -, hs⟩
  · -- Without a separator the whole is the part before it.
    simp only [hs, text_eq, lift_bind]
    rfl
  · simp only [hs, text_eq, offset_eq, lift_bind]
    rfl

theorem publication_eq (rest : List Bytes) :
    publication rest = lift (Request.publication rest) := by
  unfold publication Request.publication
  split
  · rename_i h
    split
    · exact absurd rfl h
    · rfl
  · rename_i h
    match rest, Decidable.not_not.1 h with
    | [stream, event], _ =>
      simp only [takeTwo, text_eq, ok_bind, publication_record, built_draft, lift_bind]
      rfl

theorem subscription_eq (rest : List Bytes) :
    subscription rest = lift (Request.subscription rest) := by
  unfold subscription Request.subscription
  split
  · rename_i h
    split
    · exact absurd rfl h
    · rfl
  · rename_i h
    obtain ⟨data, rfl⟩ := List.length_eq_one_iff.1 (Decidable.not_not.1 h)
    simp only [takeOne, ok_bind, target_eq, lift_bind]
    cases ht : Request.target data with
    | error error => rfl
    | ok found =>
      obtain ⟨stream, i⟩ := found
      have hr := subscription_record.2 (Request.target_valid ht)
      show built (subscriptionRecord stream i).subscription = _
      rw [hr, built_draft]
      rfl

theorem command_eq (args : List Bytes) : command args = lift (Request.command args) := by
  cases args with
  | nil => rfl
  | cons first rest =>
    simp only [command, Request.command, text_eq, lift_bind, publication_eq, subscription_eq]
    congr 1
    funext called
    split
    · rfl
    split <;> rfl

/-! ## Log lines without failures -/

/-- The second reading, up to the fault of the first, has nothing to fail at. -/
@[simp] theorem leftover_eq (data : Bytes) : leftover data = .ok (Payload.leftover data) := by
  unfold leftover Payload.leftover
  cases h : Utf8.toText data with
  | ok t => rfl
  | error fault =>
    obtain ⟨defect, start, stop⟩ := fault
    obtain ⟨t, ht⟩ := Utf8.toText_take_start h
    cases defect with
    | unexpectedEnd =>
      simp only at ht
      simp only [if_true, ht]
    | invalidStart => rfl
    | invalidContinuation => rfl

@[simp] theorem view_eq (most : Nat) (data : Bytes) : view most data = .ok (Payload.view (some most) data) := by
  unfold view Payload.view
  by_cases h : most < data.length
  · have h' : (most : Int) < data.length := by omega
    simp only [if_pos h, if_pos h', Cut.keep_natCast, leftover_eq]
  · have h' : ¬(most : Int) < data.length := by omega
    simp only [if_neg h, if_neg h']

@[simp] theorem describe_eq (c : Command) : describe c = .ok c.describe := by
  unfold describe
  cases c with
  | publish stream event =>
    rw [fields, view_eq]
    rfl
  | subscribe stream i => rfl

/-! ## Whole requests -/

/-- Of all failures only refusals are met, and they are those of `Request.decode`. -/
theorem request_eq (debug : Bool) (value : Value) :
    request debug value =
      (Request.decode value).mapError .refused >>= fun c =>
        .ok (c, if debug then [Request.acceptedLine c] else []) := by
  unfold request Request.decode
  cases Request.arguments value with
  | error fault => rfl
  | ok args =>
    show (command args >>= _) = (Except.mapError _ (Except.mapError _ _)) >>= _
    rw [command_eq]
    cases Request.command args with
    | error error => rfl
    | ok c =>
      cases debug with
      | false => rfl
      | true =>
        show (describe c >>= _) = _
        rw [describe_eq]
        rfl

end Attempt

/-- **Nothing but refusals.** For every value, with a log at debug level or without, either a
command comes of it that passes the checks of its class, with a line about it in the log, or the
request is refused. -/
theorem Request.decode_or_refuse (debug : Bool) (value : Value) :
    (∃ c : Command, decode value = .ok c ∧ c.Valid ∧
      Attempt.request debug value = .ok (c, if debug then [acceptedLine c] else [])) ∨
    ∃ error, decode value = .error error ∧
      Attempt.request debug value = .error (.refused error) := by
  rw [Attempt.request_eq]
  cases h : decode value with
  | error error => exact .inr ⟨error, rfl, rfl⟩
  | ok c =>
    refine .inl ⟨c, rfl, ?_, rfl⟩
    obtain ⟨args, -, hc⟩ := Results.bind_eq_ok_iff.1 h
    exact command_valid (Results.mapError_eq_ok_iff.1 hc)

end StreamRequest
