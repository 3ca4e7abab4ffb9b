/-
The reply to a refused request is one line, whatever the client has sent.

What a reply says is printable (`all_printable_message`): the wordings are, and
the only text of a client in it, an offset that is none, is quoted. So the
reply has a wire form, which ends at its only line end.
-/
import StreamRequest.Proofs.Results
import StreamRequest.Proofs.Text.Ascii
import StreamRequest.Proofs.Text.CodeText
import StreamRequest.Proofs.Text.Printable
import StreamRequest.Request
import StreamRequest.Value.Wire

namespace StreamRequest

open Printable (All)

/-! ## What replies say -/

theorem ShapeError.all_printable_message (fault : ShapeError) : All fault.message.toList := by
  obtain ⟨shape, index⟩ := fault
  have hw : All shape.words.toList := by
    cases shape <;> decide +kernel
  have hi : All "invalid request: ".toList := by decide +kernel
  cases index with
  | none =>
    have he : All "".toList := by decide +kernel
    exact (hi.toList_append hw).toList_append he
  | some index =>
    have ha : All " at argument ".toList := by decide +kernel
    exact (hi.toList_append hw).toList_append (ha.toList_append (all_printable_intText index))

theorem CommandError.all_printable_message (fault : CommandError) : All fault.message.toList := by
  cases fault with
  | unknownCommand name =>
    show All "command not found".toList
    decide +kernel
  | missingName =>
    show All "missing command name".toList
    decide +kernel
  | argumentCount expected =>
    have h : All "invalid number of arguments (expected ".toList := by decide +kernel
    exact (h.toList_append (all_printable_intText expected)).toList_append (by decide +kernel)
  | notText fault =>
    have h : All "invalid utf8 string: ".toList := by decide +kernel
    have hr : All fault.defect.reason.toList := by
      cases fault.defect <;> decide +kernel
    have ha : All " at byte ".toList := by decide +kernel
    exact ((h.toList_append hr).toList_append ha).toList_append (all_printable_natText fault.start)
  | badOffset text =>
    have h : All "invalid offset: ".toList := by decide +kernel
    exact h.toList_append (all_printable_quote text)

namespace RequestError

theorem all_printable_message (error : RequestError) : All error.message.toList := by
  cases error with
  | shape fault => exact fault.all_printable_message
  | command fault => exact fault.all_printable_message

theorem all_printable_replyText (error : RequestError) : All error.replyText.toList := by
  have h : All "ERR ".toList := by decide
  exact h.toList_append error.all_printable_message

/-! ## Replies on the wire -/

/-- Bytes that are an error on one line: no line break stands in them but the line end, which they
end with. -/
def IsErrorLine (wire : Bytes) : Prop :=
  ∃ line, wire = line ++ Value.lineEnd ∧ Utf8.ofText "-ERR " <+: line ∧ 0x0D ∉ line ∧ 0x0A ∉ line

theorem encode_reply (error : RequestError) :
    error.reply.encode = .ok (Utf8.encode ('-' :: error.replyText.toList) ++ Value.lineEnd) := by
  have hp := error.all_printable_replyText
  have absent : ∀ c, Printable.isPrintable c = false →
      CodePoint.char c ∉ CodeText.ofText error.replyText := by
    intro c hc hm
    exact hp.not_mem hc (CodeText.char_mem_ofText.1 hm)
  have hr := absent '\r' (by decide)
  have hn := absent '\n' (by decide)
  show Value.textLine .error (CodeText.ofText error.replyText) = _
  rw [Value.textLine, if_neg (not_or.2 ⟨hr, hn⟩), CodeText.toText_ofText]
  rfl

theorem isErrorLine_reply (error : RequestError) :
    IsErrorLine (Utf8.encode ('-' :: error.replyText.toList) ++ Value.lineEnd) := by
  have hp : All ('-' :: error.replyText.toList) :=
    .cons (by decide) error.all_printable_replyText
  have absent : ∀ c : Char, c.toNat < 0x80 → Printable.isPrintable c = false →
      .ofNat c.toNat ∉ Utf8.encode ('-' :: error.replyText.toList) := by
    intro c hc hu hm
    exact hp.not_mem hu ((Utf8.mem_encode_iff hc).1 hm)
  refine ⟨_, rfl, ⟨Utf8.ofText error.message, ?_⟩, ?_, ?_⟩
  · have h : "-ERR ".toList = '-' :: "ERR ".toList := by decide
    rw [Utf8.ofText, Utf8.ofText, ← Utf8.encode_append, h, replyText, String.toList_append]
    rfl
  · exact absent '\r' (by decide) (by decide)
  · exact absent '\n' (by decide) (by decide)

/-- **Replies stay on their line.** A request that is refused is answered by one line, and so is
any error that could be put together. -/
theorem reply_is_one_line :
    (∀ {value : Value} {error : RequestError}, Request.decode value = .error error →
      ∃ wire, error.reply.encode = .ok wire ∧ IsErrorLine wire) ∧
    ∀ error : RequestError, ∃ wire, error.reply.encode = .ok wire ∧ IsErrorLine wire := by
  have key : ∀ error : RequestError, ∃ wire, error.reply.encode = .ok wire ∧ IsErrorLine wire :=
    fun error => ⟨_, error.encode_reply, error.isErrorLine_reply⟩
  exact ⟨fun {_ error} _ => key error, key⟩

/-- A target that tries to end the reply and to send a status of its own. -/
theorem reply_is_one_line_forged :
    let value := Value.request [Utf8.ofText "SUBSCRIBE", Utf8.ofText "s:4\r\n+OK\r\n"]
    let error := RequestError.command (.badOffset "4\r\n+OK\r\n")
    Request.decode value = .error error ∧
      ∃ wire, error.reply.encode = .ok wire ∧ IsErrorLine wire := by
  intro value error
  have h : Request.decode value = .error error := by decide +kernel
  exact ⟨h, reply_is_one_line.1 h⟩

end RequestError

end StreamRequest
