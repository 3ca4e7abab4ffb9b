/-
Showing a command on the command line and decoding the request are the same.

Behind two dashes every word is an argument, so the arguments of the request are
those of the line. What is said of a request that is refused is printable, and
the control sequences that are taken out of what is printed are not in it
(`printed_of_printable`).
-/
import StreamRequest.Proofs.CommandLine.Run
import StreamRequest.Proofs.RequestError.OneLine

namespace StreamRequest.CommandLine

open Printable (All)

theorem printed_of_printable {text : String} (h : All text.toList) : printed text = text ++ "\n" :=
  printed_of_not_mem (h.not_mem (by decide))

/-- **The command line decodes as the library does.** Under settings that are read, with a log above
the debug level, the line ends well exactly if the request is decoded, and then shows the command
and says nothing. Otherwise it says what the client would be told, to the letter, and shows nothing.
It is never misused. -/
theorem parseLine_agrees_with_decode {env : Environment} {settings : Settings} {severity : Nat}
    (hs : Settings.read env = .ok settings) (hv : settings.severity = .ok severity)
    (above : LogLevel.debug.severity < severity) (arguments : List Bytes) :
    ∃ outcome, run env (parseLine none false arguments) = .done outcome ∧
      (outcome.exit = 0 ↔ ∃ c, Request.decode (.request arguments) = .ok c) ∧
      (∀ c, Request.decode (.request arguments) = .ok c →
        outcome = ⟨0, Utf8.ofText (printedAll (showCommand c settings.format)), ""⟩) ∧
      (∀ error, Request.decode (.request arguments) = .error error →
        outcome = ⟨1, [], error.replyText ++ "\n"⟩ ∧
          printed error.replyText = error.replyText ++ "\n") ∧
      outcome.exit ≠ 2 := by
  have hdebug : decide (severity ≤ LogLevel.debug.severity) = false := decide_eq_false (by omega)
  have hrun : run env (parseLine none false arguments) =
      .done (showRequest false settings.format arguments) := by
    rw [run_parseLine hs hv, hdebug]
    rfl
  refine ⟨_, hrun, ?_⟩
  unfold showRequest
  cases hd : Request.decode (.request arguments) with
  | ok c =>
    refine ⟨⟨fun _ => ⟨c, rfl⟩, fun _ => rfl⟩, fun d h => ?_, fun error h => ?_, fun h => ?_⟩
    · obtain rfl := Except.ok.inj h
      rfl
    · cases h
    · cases h
  | error error =>
    have hp := printed_of_printable error.all_printable_replyText
    refine ⟨⟨fun h => ?_, fun h => ?_⟩, fun d h => ?_, fun other h => ?_, fun h => ?_⟩
    · cases h
    · obtain ⟨d, h⟩ := h
      cases h
    · cases h
    · obtain rfl := Except.error.inj h
      refine ⟨?_, hp⟩
      simp only [hp]
      rfl
    · cases h

/-- An offset with a control sequence in it, behind a name that looks like an option. -/
theorem parseLine_agrees_with_decode_escape :
    let env : Environment := ⟨some "info", some "JSON"⟩
    let settings : Settings := ⟨.ofText "INFO", .json⟩
    let arguments := [Utf8.ofText "subscribe", Utf8.ofText "--hex:\x1b[31m"]
    let error := RequestError.command (.badOffset "\x1b[31m")
    Settings.read env = .ok settings ∧ settings.severity = .ok 20 ∧ LogLevel.debug.severity < 20 ∧
      Request.decode (.request arguments) = .error error ∧
      run env (parseLine none false arguments) = .done ⟨1, [], error.replyText ++ "\n"⟩ := by
  intro env settings arguments error
  have hs : Settings.read env = .ok settings := by decide
  have hv : settings.severity = .ok 20 := by decide
  have above : LogLevel.debug.severity < 20 := by decide
  have hd : Request.decode (.request arguments) = .error error := by decide
  obtain ⟨outcome, hrun, -, -, herror, -⟩ := parseLine_agrees_with_decode hs hv above arguments
  rw [(herror error hd).1] at hrun
  exact ⟨hs, hv, above, hd, hrun⟩

end StreamRequest.CommandLine
