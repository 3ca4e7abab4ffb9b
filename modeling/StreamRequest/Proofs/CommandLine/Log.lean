/-
A log beside the answer changes nothing in it.

The level of a log reaches a command only as the question whether lines at debug
level are shown. Reading what stands behind the command does not ask it, and
showing the bytes of a request does not either. Showing the command asks it once,
for one line before all else that is said (`showRequest_eq`), and what is said of
a request is printable. So two levels differ by that line at most
(`runSubcommand_level`).
-/
import StreamRequest.Proofs.Command.Describe
import StreamRequest.Proofs.CommandLine.Encode
import StreamRequest.Proofs.CommandLine.Level
import StreamRequest.Proofs.CommandLine.Parse

namespace StreamRequest.CommandLine

open Printable (All)

/-! ## The line of the log -/

/-- The outcome with something said before all else. -/
def Outcome.after (head : String) (outcome : Outcome) : Outcome :=
  { outcome with diagnostics := head ++ outcome.diagnostics }

/-- A request is read from the words behind the command. If it is decoded, nothing is said but the
entry, which describes the command. If it is refused, the reply is said behind the entry, which names
the class of the refusal. -/
def Reports (rest : List Bytes) (outcome : Outcome) (entry : String) : Prop :=
  ∃ words arguments, readWords (some .parse) Subcommand.parse.options true rest = .ok words ∧
    requestArguments words = .ok arguments ∧
    ((∃ command, Request.decode (.request arguments) = .ok command ∧
        outcome.exit = 0 ∧ outcome.diagnostics = "" ∧ entry = Request.acceptedLine command) ∨
      ∃ error, Request.decode (.request arguments) = .error error ∧
        outcome.exit = 1 ∧ outcome.diagnostics = error.replyText ++ "\n" ∧
        entry = Request.rejectedLine error)

theorem Reports.exit {rest : List Bytes} {outcome : Outcome} {entry : String}
    (h : Reports rest outcome entry) : outcome.exit = 0 ∨ outcome.exit = 1 := by
  obtain ⟨_, _, _, _, ⟨_, _, h, _⟩ | ⟨_, _, h, _⟩⟩ := h
  · exact .inl h
  · exact .inr h

end StreamRequest.CommandLine
