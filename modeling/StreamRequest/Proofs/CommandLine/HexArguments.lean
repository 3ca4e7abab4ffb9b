/-
Arguments in hexadecimal digits stand for the bytes that they spell.

Both commands take their arguments from the operands in one place
(`spelledArguments`), before anything is shown. So spellings of the same bytes
lead to the same run, and a spelling that is broken ends the run whatever the
others are.
-/
import StreamRequest.Proofs.CommandLine.Run
import StreamRequest.Proofs.Text.Decimal
import StreamRequest.Proofs.Text.HexSpelling

namespace StreamRequest.CommandLine

open Hexadecimal (Spells BreaksAt)

theorem spelledArguments_of_spells {spellings arguments : List Bytes}
    (h : List.Forall₂ Spells spellings arguments) :
    spelledArguments true spellings = spelledArguments false arguments := by
  rw [spelledArguments, if_pos rfl, Hexadecimal.readAll_eq_ok_iff.2 h]
  rfl

/-- What is left of a run for an argument that breaks at a position. -/
def brokenArgument (position : Nat) : Outcome :=
  ⟨2, [], "Error: " ++ ("Invalid value for ARGS: not a hex string: " ++
    "non-hexadecimal number found in fromhex() arg at position " ++ Decimal.natText position) ++ "\n"⟩

/-- What is said of a misuse, if there is no control sequence in it. -/
theorem misuse_of_text {error : UsageError} {text : String} (hm : error.message = .ofText text)
    (h : ControlSequence.escapeMark ∉ ("Error: " ++ text ++ "\n").toList) :
    misuse error = ⟨2, [], "Error: " ++ text ++ "\n"⟩ := by
  rw [misuse, hm, printedRagged, Ragged.ofText_append, Ragged.ofText_append,
    Ragged.withoutSequences_ofText h, Ragged.escaped_ofText]

theorem misuse_notHexadecimal (position : Nat) :
    misuse (.notHexadecimal position) = brokenArgument position := by
  have hdigits : ControlSequence.escapeMark ∉ Decimal.ofNat position :=
    Decimal.not_mem_ofNat (by decide)
  refine misuse_of_text rfl ?_
  simp only [String.toList_append, List.mem_append, Decimal.natText, String.toList_ofList, not_or]
  refine ⟨⟨?_, ⟨?_, ?_⟩, hdigits⟩, ?_⟩ <;> decide

/-- A broken spelling among the operands is what the run ends with, the first one if there are
several. -/
theorem spelledArguments_of_broken {operands : List Bytes}
    (h : ∃ s ∈ operands, ∀ data, ¬Spells s data) :
    ∃ position, spelledArguments true operands = .error (.notHexadecimal position) ∧
      ∃ before s after, operands = before ++ s :: after ∧ (∀ t ∈ before, ∃ data, Spells t data) ∧
        (∀ data, ¬Spells s data) ∧ BreaksAt s position := by
  rw [spelledArguments, if_pos rfl]
  cases hr : Hexadecimal.readAll operands with
  | error position => exact ⟨position, rfl, Hexadecimal.breaksAt_of_readAll hr⟩
  | ok arguments =>
    obtain ⟨s, hs, hbroken⟩ := h
    have hall := Hexadecimal.readAll_eq_ok_iff.1 hr
    obtain ⟨data, hd⟩ := Hexadecimal.exists_spells_of_mem hall s hs
    exact absurd hd (hbroken data)

/-- **Digits stand for the bytes that they spell.** In every environment and format, a line with
arguments in hexadecimal digits leaves what the line with the bytes leaves, whether the command or
the bytes of the request are shown. A broken spelling among the arguments ends either run with a
usage error, which gives the position where the first broken one breaks. -/
theorem hexadecimal_lines_agree :
    (∀ (env : Environment) (format : Option OutputFormat) {spellings arguments : List Bytes},
      List.Forall₂ Spells spellings arguments →
        run env (parseLine format true spellings) = run env (parseLine format false arguments) ∧
          ∀ raw, run env (encodeLine raw true spellings) =
            run env (encodeLine raw false arguments)) ∧
    ∀ {env : Environment} {settings : Settings} (format : Option OutputFormat)
      {operands : List Bytes}, Settings.read env = .ok settings →
        (∃ s ∈ operands, ∀ data, ¬Spells s data) →
        ∃ position, run env (parseLine format true operands) = .done (brokenArgument position) ∧
          (∀ raw, run env (encodeLine raw true operands) = .done (brokenArgument position)) ∧
          ∃ before s after, operands = before ++ s :: after ∧
            (∀ t ∈ before, ∃ data, Spells t data) ∧ (∀ data, ¬Spells s data) ∧
            BreaksAt s position := by
  refine ⟨fun env format spellings arguments h => ?_, fun format operands hs h => ?_⟩
  · have hspelled := spelledArguments_of_spells h
    have hempty : spellings = [] ↔ arguments = [] := by
      rw [← List.length_eq_zero_iff, h.length_eq, List.length_eq_zero_iff]
    refine ⟨?_, fun raw => ?_⟩
    · show run env (Utf8.ofText Subcommand.parse.name :: _) =
        run env (Utf8.ofText Subcommand.parse.name :: _)
      simp only [run_named, runSubcommand_parse, hspelled]
    · show run env (Utf8.ofText Subcommand.encode.name :: _) =
        run env (Utf8.ofText Subcommand.encode.name :: _)
      simp only [run_named, runSubcommand_encode, hspelled, hempty]
  · obtain ⟨severity, hv⟩ := Settings.severity_of_read hs
    obtain ⟨position, hp, hbreak⟩ := spelledArguments_of_broken h
    have hne : operands ≠ [] := by
      obtain ⟨s, hm, -⟩ := h
      exact List.ne_nil_of_mem hm
    refine ⟨position, ?_, fun raw => ?_, hbreak⟩
    · rw [run_parseLine hs hv, hp]
      exact congrArg Result.done (misuse_notHexadecimal position)
    · rw [run_encodeLine hs raw true hne, hp]
      exact congrArg Result.done (misuse_notHexadecimal position)

/-- A name in mixed digits with blanks between the pairs, and a byte that is no text; and a pair
that a blank has come into. -/
theorem hexadecimal_lines_agree_blanks :
    let env : Environment := ⟨some "debug", none⟩
    let spellings := [Utf8.ofText "70 75\t62 6C6973\n68", [], Utf8.ofText " fF "]
    let arguments := [Utf8.ofText "publish", [], [0xFF]]
    let operands := [Utf8.ofText "41", Utf8.ofText "4 1"]
    List.Forall₂ Spells spellings arguments ∧
      run env (parseLine (some .json) true spellings) =
        run env (parseLine (some .json) false arguments) ∧
      Settings.read env = .ok ⟨.ofText "DEBUG", .table⟩ ∧
      (∃ s ∈ operands, ∀ data, ¬Spells s data) ∧
      ∃ position, run env (parseLine none true operands) = .done (brokenArgument position) ∧
        ∀ raw, run env (encodeLine raw true operands) = .done (brokenArgument position) := by
  intro env spellings arguments operands
  have hspell : List.Forall₂ Spells spellings arguments :=
    Hexadecimal.readAll_eq_ok_iff.1 (by decide)
  have hs : Settings.read env = .ok ⟨.ofText "DEBUG", .table⟩ := by decide
  have hbroken : ∃ s ∈ operands, ∀ data, ¬Spells s data := by
    refine ⟨Utf8.ofText "4 1", .tail _ (.head _), fun data h => ?_⟩
    have hr : Hexadecimal.read (Utf8.ofText "4 1") = .error 1 := by decide
    rw [Hexadecimal.read_eq_ok_iff.2 h] at hr
    cases hr
  obtain ⟨position, hparse, hencode, -⟩ := hexadecimal_lines_agree.2 none hs hbroken
  exact ⟨hspell, (hexadecimal_lines_agree.1 env (some .json) hspell).1, hs, hbroken, position,
    hparse, hencode⟩

end StreamRequest.CommandLine
