/-
The JSON of a command holds all of it.

A command is told from its members (`members_injective`): the names of the two
commands differ, and an event is told from its base 64. The members are told from
the object in any form, whatever characters the stream is made of, so commands
with the same JSON are the same.
-/
import StreamRequest.Proofs.CommandLine.Run
import StreamRequest.Proofs.Text.Base64
import StreamRequest.Proofs.Text.Json

namespace StreamRequest.Command

open CommandLine (printed run parseLine)

/-! ## Members -/

theorem whole_members (key : OffsetKey) (c : Command) : ∀ m ∈ c.members key, m.2.Whole := by
  intro m hm
  cases c <;> simp only [members, List.mem_cons, List.not_mem_nil, or_false] at hm <;>
    rcases hm with rfl | rfl | rfl <;> exact trivial

theorem members_injective {key : OffsetKey} {c d : Command} (h : c.members key = d.members key) :
    c = d := by
  cases c <;> cases d <;>
    simp only [members, List.cons.injEq, Prod.mk.injEq, Json.Scalar.text.injEq,
      Json.Scalar.integer.injEq, true_and, and_true] at h
  case publish.publish stream event stream' event' =>
    obtain ⟨rfl, he⟩ := h
    rw [Base64.text_injective he]
  case publish.subscribe => exact absurd h.1 (by decide)
  case subscribe.publish => exact absurd h.1 (by decide)
  case subscribe.subscribe =>
    obtain ⟨rfl, rfl⟩ := h
    rfl

/-! ## Objects -/

theorem json_injective {key : OffsetKey} {c d : Command} (h : c.json key = d.json key) : c = d :=
  members_injective (Json.compact_injective (whole_members key c) (whole_members key d) h)

theorem indentedJson_injective {c d : Command} (h : c.indentedJson = d.indentedJson) : c = d :=
  members_injective (Json.indented_injective (whole_members .wire c) (whole_members .wire d) h)

theorem printed_indentedJson (c : Command) : printed c.indentedJson = c.indentedJson ++ "\n" :=
  CommandLine.printed_of_not_mem (Json.escapeMark_not_mem_indented .unicode _)

/-- **JSON loses nothing.** In each of the three forms two commands are written the same only if
they are the same. Nothing is taken out of the indented form when it is printed, and that is what
the command line prints of a request in this format. -/
theorem json_is_lossless :
    (∀ c d : Command, (∀ key, c.json key = d.json key ↔ c = d) ∧
      (c.indentedJson = d.indentedJson ↔ c = d) ∧
      printed c.indentedJson = c.indentedJson ++ "\n") ∧
    ∀ {env : Environment} {settings : Settings} {arguments : List Bytes} {c : Command},
      Settings.read env = .ok settings → Request.decode (.request arguments) = .ok c →
        ∃ log, run env (parseLine (some .json) false arguments) =
          .done ⟨0, Utf8.ofText (c.indentedJson ++ "\n"), log⟩ := by
  refine ⟨fun c d => ⟨fun key => ⟨json_injective, fun h => h ▸ rfl⟩,
    ⟨indentedJson_injective, fun h => h ▸ rfl⟩, printed_indentedJson c⟩, ?_⟩
  intro env settings arguments c hs hd
  obtain ⟨severity, hv⟩ := Settings.severity_of_read hs
  refine ⟨CommandLine.logged (severity ≤ LogLevel.debug.severity) (Request.acceptedLine c), ?_⟩
  have hprinted : CommandLine.printedAll (CommandLine.showCommand c .json) =
      c.indentedJson ++ "\n" := by
    rw [CommandLine.showCommand, CommandLine.printedAll_singleton, printed_indentedJson]
  have hshown : CommandLine.showRequest (severity ≤ LogLevel.debug.severity) .json arguments =
      ⟨0, Utf8.ofText (c.indentedJson ++ "\n"),
        CommandLine.logged (severity ≤ LogLevel.debug.severity) (Request.acceptedLine c)⟩ := by
    rw [CommandLine.showRequest, hd, ← hprinted]
    rfl
  rw [CommandLine.run_parseLine hs hv, ← hshown]
  rfl

/-- A stream that looks like the members behind it and would begin a control sequence, and an event
that is no text. -/
theorem json_is_lossless_lookalike :
    let env : Environment := ⟨some "critical", none⟩
    let settings : Settings := ⟨.ofText "CRITICAL", .table⟩
    let arguments := [Utf8.ofText "PUBLISH", Utf8.ofText "\",\"event\":\"\x1b[0m", [0xFF]]
    let c := Command.publish "\",\"event\":\"\x1b[0m" [0xFF]
    Settings.read env = .ok settings ∧ Request.decode (.request arguments) = .ok c ∧
      ∃ log, run env (parseLine (some .json) false arguments) =
        .done ⟨0, Utf8.ofText (c.indentedJson ++ "\n"), log⟩ := by
  intro env settings arguments c
  have hs : Settings.read env = .ok settings := by decide
  have hd : Request.decode (.request arguments) = .ok c := by decide
  exact ⟨hs, hd, json_is_lossless.2 hs hd⟩

end StreamRequest.Command
