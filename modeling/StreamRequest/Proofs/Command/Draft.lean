/-
Drafts that are commands, and the requests of drafts.

A draft is a command if its stream has no surrogate (`exists_command`), and then
it has a request (`request_draft`). Otherwise its stream fails to be written, and
the draft fails at the same surrogates (`request_eq_error_iff`).
-/
import StreamRequest.Command.Draft
import StreamRequest.Proofs.Text.CodeText

namespace StreamRequest.Draft

/-! ## Drafts that are commands -/

/-- The target of a subscription to a stream that is a string. -/
def plainTarget (stream : String) (offset : Int) : String :=
  if offset = Command.tail then stream else stream ++ (":" ++ Decimal.intText offset)

/-- What stands behind the name in the request for a command. -/
def operands : Command → List Bytes
  | .publish stream event => [Utf8.ofText stream, event]
  | .subscribe stream offset => [Utf8.ofText (plainTarget stream offset)]

@[simp] theorem name_draft (c : Command) : c.draft.name = c.name := by
  cases c <;> rfl

@[simp] theorem valid_draft {c : Command} : c.draft.Valid ↔ c.Valid := by
  cases c with
  | publish stream event => exact Iff.rfl
  | subscribe stream offset => simp [Command.draft, Valid, Command.Valid]

@[simp] theorem command_draft (c : Command) : c.draft.command = .ok c := by
  cases c <;> simp only [Command.draft, command, CodeText.toText_ofText] <;> rfl

theorem exists_command {d : Draft} (h : ∀ index, CodePoint.surrogate index ∉ d.stream) :
    ∃ c : Command, c.draft = d := by
  obtain ⟨text, ht⟩ := CodeText.exists_eq_ofText_iff.2 h
  cases d with
  | publish stream event =>
    obtain rfl : stream = _ := ht
    exact ⟨.publish text event, rfl⟩
  | subscribe stream offset =>
    obtain rfl : stream = _ := ht
    exact ⟨.subscribe text offset, rfl⟩

@[simp] theorem surrogate_not_mem_draft (c : Command) (index : Fin 0x800) :
    CodePoint.surrogate index ∉ c.draft.stream := by
  cases c <;> exact CodeText.surrogate_not_mem_ofText

/-! ## Requests of drafts -/

theorem target_eq (stream : CodeText) (offset : Int) :
    target stream offset =
      stream ++ CodeText.ofText (if offset = Command.tail then "" else ":" ++ Decimal.intText offset) := by
  unfold target
  split
  · exact (List.append_nil _).symm
  · rfl

@[simp] theorem target_ofText (stream : String) (offset : Int) :
    target (CodeText.ofText stream) offset = CodeText.ofText (plainTarget stream offset) := by
  unfold target plainTarget
  split
  · rfl
  · exact (CodeText.ofText_append _ _).symm

@[simp] theorem encode_ofText (text : String) : (CodeText.ofText text).encode = .ok (Utf8.ofText text) :=
  CodeText.encode_eq_ok_iff.2 ⟨text, rfl, rfl⟩

@[simp] theorem request_draft (c : Command) :
    c.draft.request = .ok (.request (Utf8.ofText c.name :: operands c)) := by
  cases c with
  | publish stream event =>
    simp [request, Command.draft, arguments]
    rfl
  | subscribe stream offset =>
    simp [request, Command.draft, arguments]
    rfl

/-- A target fails to be written where its stream does. -/
theorem encode_target_eq_error_iff {stream : CodeText} {offset : Int} {run : Surrogates} :
    (target stream offset).encode = .error run ↔ run.FirstIn stream := by
  rw [target_eq, CodeText.encode_eq_error_iff, ← CodeText.toText_eq_error_iff,
    CodeText.toText_append_ofText, Results.map_eq_error_iff, CodeText.toText_eq_error_iff]

/-- A draft without a request fails at the first surrogates of its stream. -/
theorem request_eq_error_iff {d : Draft} {run : Surrogates} :
    d.request = .error run ↔ run.FirstIn d.stream := by
  have never : ∀ {args : List Bytes}, ¬(Except.ok args : Except Surrogates _) = .error run := nofun
  rw [request, Results.map_eq_error_iff]
  cases d with
  | publish stream event =>
    rw [arguments, Results.bind_eq_error_iff, CodeText.encode_eq_error_iff]
    exact or_iff_left fun ⟨_, _, h⟩ => never h
  | subscribe stream offset =>
    rw [arguments, Results.bind_eq_error_iff, encode_target_eq_error_iff]
    exact or_iff_left fun ⟨_, _, h⟩ => never h

end StreamRequest.Draft
