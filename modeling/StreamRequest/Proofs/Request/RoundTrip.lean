/-
Reading the request for a command gives the command back, and only a stream
with surrogates keeps a command from having a request.

The name of the command may be in any mixture of cases (`command_called`). What is
asked of a target is `target_ofText`: the colon that the target was put together
with is the first one in it, and a position written in decimal digits has few
enough of them to be read.
-/
import StreamRequest.Proofs.Record
import StreamRequest.Proofs.Request.Name
import StreamRequest.Proofs.Request.Reading
import StreamRequest.Proofs.Text.Decimal

namespace StreamRequest.Request

open Bytes (SameButCase)

/-! ## Targets -/

/-- An offset in range has at most nineteen digits, far fewer than are read. -/
theorem offset_intText {i : Int} (hl : Command.tail ≤ i) (hm : i ≤ Command.maxOffset) :
    offset (Decimal.intText i) = .ok i := by
  refine offset_eq_ok_iff.2 ⟨?_, hl, hm⟩
  rw [Decimal.intText, String.toList_ofList]
  apply Decimal.readInt?_ofInt
  have hd : (Decimal.ofNat i.natAbs).length ≤ 19 := by
    refine (Nat.length_toDigits_le_iff (by decide) (by decide)).2 ?_
    unfold Command.tail at hl
    unfold Command.maxOffset at hm
    omega
  exact Nat.le_trans hd (by decide)

/-- The target of a subscription is taken apart into what it was put together from. -/
theorem target_ofText {stream : String} {i : Int} (hc : ':' ∉ stream.toList)
    (hl : Command.tail ≤ i) (hm : i ≤ Command.maxOffset) :
    target (Utf8.ofText (Draft.plainTarget stream i)) = .ok (stream, i) := by
  refine target_eq_ok_iff.2 ⟨hc, ?_⟩
  unfold Draft.plainTarget
  by_cases ht : i = Command.tail
  · rw [if_pos ht]
    exact .inl ⟨rfl, ht⟩
  · rw [if_neg ht]
    refine .inr ⟨Decimal.intText i, ?_, offset_intText hl hm⟩
    have hcolon : Utf8.ofText ":" = [Command.separator] := by decide
    simp [hcolon]

/-! ## Whole requests -/

theorem command_called {c : Command} (hv : c.Valid) {called : Bytes}
    (h : SameButCase called (Utf8.ofText c.name)) : command (called :: Draft.operands c) = .ok c := by
  cases c with
  | publish stream event =>
    rw [command_publish h]
    exact publication_eq_ok_iff.2 ⟨stream, event, rfl, rfl⟩
  | subscribe stream i =>
    obtain ⟨hc, hl, hm⟩ := hv
    rw [command_subscribe h]
    exact subscription_eq_ok_iff.2 ⟨_, stream, i, rfl, target_ofText hc hl hm, rfl⟩

theorem decode_called {c : Command} (hv : c.Valid) {called : Bytes}
    (h : SameButCase called (Utf8.ofText c.name)) :
    decode (.request (called :: Draft.operands c)) = .ok c := by
  rw [decode_request_eq, command_called hv h]
  rfl

/-- A draft has a request that is read as the draft again, and still is with the name in any
mixture of upper and lower case. -/
def ReadBack (d : Draft) : Prop :=
  ∃ (c : Command) (operands : List Bytes), c.draft = d ∧
    d.request = .ok (.request (Utf8.ofText d.name :: operands)) ∧
    decode (.request (Utf8.ofText d.name :: operands)) = .ok c ∧
    ∀ called, SameButCase called (Utf8.ofText d.name) →
      decode (.request (called :: operands)) = .ok c

/-- **Round trip.** Of the commands that their classes allow, the request of those is read back whose
stream has no surrogate: all subscriptions, and the publications to strings. The others have no
request: writing the stream fails at its first surrogates. -/
theorem readBack_iff_of_valid {d : Draft} (hv : d.Valid) :
    (ReadBack d ↔ ∀ index, CodePoint.surrogate index ∉ d.stream) ∧
      ∀ run : Surrogates, d.request = .error run ↔ run.FirstIn d.stream := by
  refine ⟨⟨?_, fun h => ?_⟩, fun run => Draft.request_eq_error_iff⟩
  · rintro ⟨c, -, rfl, -⟩ index
    exact Draft.surrogate_not_mem_draft c index
  · obtain ⟨c, rfl⟩ := Draft.exists_command h
    have hc := Draft.valid_draft.1 hv
    have key : ∀ called, SameButCase called (Utf8.ofText c.draft.name) →
        decode (.request (called :: Draft.operands c)) = .ok c := by
      intro called hs
      rw [Draft.name_draft] at hs
      exact decode_called hc hs
    refine ⟨c, Draft.operands c, rfl, ?_, key _ (SameButCase.refl _), key⟩
    rw [Draft.name_draft]
    exact Draft.request_draft c

/-- A stream with a line break and a letter of two bytes, at the greatest offset. -/
theorem readBack_iff_of_valid_far :
    let d := Draft.subscribe "é\n" Command.maxOffset
    d.Valid ∧ (∀ index, CodePoint.surrogate index ∉ d.stream) ∧ ReadBack d := by
  intro d
  have hv : d.Valid := Draft.valid_draft (c := .subscribe "é\n" Command.maxOffset).2 (by decide)
  have hs : ∀ index, CodePoint.surrogate index ∉ d.stream := fun _ =>
    CodeText.surrogate_not_mem_ofText
  exact ⟨hv, hs, (readBack_iff_of_valid hv).1.2 hs⟩

/-- A publication to the stream U+D800 can be built and has no request. -/
theorem surrogate_not_readBack :
    let fields : Record := [("stream", .text [.surrogate 0]), ("event", .bytes [])]
    let d := Draft.publish [.surrogate 0] []
    let run : Surrogates := ⟨0, 0, 1⟩
    Record.build fields .publish = .ok (.command d) ∧ d.Valid ∧ d.request = .error run ∧
      run.message = "'utf-8' codec can't encode character '\\ud800' in position 0: surrogates not allowed" ∧
      ¬ReadBack d := by
  intro fields d run
  have hb : Record.build fields .publish = .ok (.command d) := rfl
  have hr : d.request = .error run := by decide
  refine ⟨hb, Draft.valid_iff_exists_record.2 ⟨fields, .publish, hb⟩, hr, by decide, ?_⟩
  rintro ⟨c, operands, -, h, -⟩
  rw [hr] at h
  cases h

end StreamRequest.Request
