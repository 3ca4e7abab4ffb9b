/-
How a line is carried out whose first word names a command.

No option stands before the name, so the settings are those of the environment
(`run_named`), and settings that are read always give a severity
(`severity_of_read`). Behind the name each option is taken off by itself
(`read_option`, `read_value`), and behind two dashes every word is an operand, be
it what it may (`read_operands`). Two lines with a request are read so, the one
that shows the command (`run_parseLine`) and the one that shows the bytes
(`run_encodeLine`).

Any other line that shows a request, whatever its options are and wherever they stand,
is told by what is read of it (`Shows`), and shows the same (`run_of_decode`).
-/
import StreamRequest.CommandLine
import StreamRequest.Proofs.Results
import StreamRequest.Proofs.Text.ControlSequence

namespace StreamRequest

/-! ## Text without stray bytes -/

namespace Ragged

theorem ofText_append (s t : String) : ofText s ++ ofText t = ofText (s ++ t) := by
  unfold ofText
  rw [String.toList_append, List.map_append]

@[simp] theorem toText_ofText (text : String) : (ofText text).toText = .ok text := by
  have htake : ∀ chars : List Char,
      ((chars.map Utf8.Piece.char).takeWhile fun piece => piece.char?.isSome) =
        chars.map .char := by
    intro chars
    induction chars with
    | nil => rfl
    | cons c rest ih => rw [List.map_cons, List.takeWhile_cons_of_pos rfl, ih]
  have hchars : (ofText text).chars = text.toList := by
    rw [chars, ofText, List.filterMap_map]
    exact List.filterMap_some
  have hnone : (ofText text).firstStrays? = none := by
    simp only [firstStrays?, ofText, htake, List.drop_length]
  rw [toText, hnone, hchars, String.ofList_toList]

@[simp] theorem escaped_ofText (text : String) : (ofText text).escaped = text := by
  unfold escaped ofText
  rw [List.flatMap_map]
  show String.ofList (text.toList.flatMap fun c => [c]) = text
  rw [List.flatMap_singleton', String.ofList_toList]

theorem withoutSequences_ofText {text : String} (h : ControlSequence.escapeMark ∉ text.toList) :
    (ofText text).withoutSequences = ofText text := by
  refine ControlSequence.stripFrom_of_forall_ne _ fun x hx e => ?_
  obtain ⟨c, hc, rfl⟩ := List.mem_map.1 hx
  exact h (Option.some.inj e ▸ hc)

end Ragged

/-! ## Settings -/

namespace Settings

theorem severity_of_name {name : String} {level : LogLevel} (h : LogLevel.ofName? name = some level)
    (format : OutputFormat) : severity ⟨.ofText name, format⟩ = .ok level.severity := by
  simp [severity, LogLevel.severityOf, h]

/-- The level of settings that are read is that of a name, so it has a severity. -/
theorem severity_of_read {env : Environment} {settings : Settings}
    (h : Settings.read env = .ok settings) : ∃ severity, settings.severity = .ok severity := by
  unfold Settings.read at h
  simp only at h
  split at h
  · cases h
  · cases h
  · rename_i level format hl hf
    obtain rfl := Except.ok.inj h
    exact ⟨level.severity, severity_of_name hl format⟩

end Settings

namespace CommandLine

/-! ## Output -/

@[simp] theorem printed_eq (text : String) : printed text = ControlSequence.strip text ++ "\n" :=
  ControlSequence.strip_append_lineFeed text

theorem printed_of_not_mem {text : String} (h : ControlSequence.escapeMark ∉ text.toList) :
    printed text = text ++ "\n" := by
  rw [printed_eq, ControlSequence.strip_of_not_mem h]

@[simp] theorem printedAll_singleton (text : String) : printedAll [text] = printed text :=
  String.toList_inj.1 (by simp [printedAll])

/-! ## Words -/

theorem read_operands (specs : List OptionSpec) (mixed : Bool) (operands : List Bytes) :
    Words.read specs mixed (endOfOptions :: operands) = .ok ⟨[], operands⟩ := by
  rw [Words.read, if_pos rfl]

theorem read_option {specs : List OptionSpec} {word value : Bytes} {long : String}
    (hend : word ≠ endOfOptions) (hword : readWord specs word = .ok (.option long value))
    (mixed : Bool) (rest : List Bytes) :
    Words.read specs mixed (word :: rest) =
      (Words.read specs mixed rest).map (Words.addOption long value) := by
  rw [Words.read, if_neg hend, hword]

/-- An option whose value is the next word is taken off together with it. -/
theorem read_value {specs : List OptionSpec} {word : Bytes} {long spelling : String}
    (hend : word ≠ endOfOptions) (hword : readWord specs word = .ok (.awaiting long spelling))
    (mixed : Bool) (value : Bytes) (rest : List Bytes) :
    Words.read specs mixed (word :: value :: rest) =
      (Words.read specs mixed rest).map (Words.addOption long value) := by
  rw [Words.read, if_neg hend, hword]

/-! ## Commands -/

/-- The name of a command is an operand, and what stands behind it is not looked at. -/
theorem read_name (subcommand : Subcommand) (rest : List Bytes) :
    Words.read globalOptions false (Utf8.ofText subcommand.name :: rest) =
      .ok ⟨[], Utf8.ofText subcommand.name :: rest⟩ := by
  have hend : Utf8.ofText subcommand.name ≠ endOfOptions := by
    cases subcommand <;> decide
  have hword : readWord globalOptions (Utf8.ofText subcommand.name) = .ok .operand := by
    cases subcommand <;> decide
  rw [Words.read, if_neg hend, hword]
  rfl

theorem ofName?_name (subcommand : Subcommand) :
    Subcommand.ofName? (Utf8.ofText subcommand.name) = some subcommand := by
  cases subcommand <;> decide

theorem read_named (subcommand : Subcommand) (rest : List Bytes) :
    Invocation.read (Utf8.ofText subcommand.name :: rest) =
      .ok ⟨⟨[], Utf8.ofText subcommand.name :: rest⟩, subcommand, rest⟩ := by
  have hwords : readWords none globalOptions false (Utf8.ofText subcommand.name :: rest) =
      .ok ⟨[], Utf8.ofText subcommand.name :: rest⟩ := by
    rw [readWords, read_name]
    rfl
  rw [Invocation.read, hwords, Results.ok_bind]
  simp only [ofName?_name]

/-- What is done with such a line: the settings of the environment are read first. -/
theorem run_named (env : Environment) (subcommand : Subcommand) (rest : List Bytes) :
    run env (Utf8.ofText subcommand.name :: rest) = .ofRun (do
      let settings ← (Settings.read env).mapError fun fault => .misuse (.settings fault)
      let severity ← settings.severity.mapError .badLevel
      runSubcommand settings (severity ≤ LogLevel.debug.severity) subcommand rest) := by
  rw [run, runChecked, read_named, Results.ok_bind]
  rfl

theorem run_of_read {env : Environment} {settings : Settings} {severity : Nat}
    (hs : Settings.read env = .ok settings) (hv : settings.severity = .ok severity)
    (subcommand : Subcommand) (rest : List Bytes) :
    run env (Utf8.ofText subcommand.name :: rest) =
      .ofRun (runSubcommand settings (severity ≤ LogLevel.debug.severity) subcommand rest) := by
  rw [run_named, hs]
  show Result.ofRun (settings.severity.mapError .badLevel >>= _) = _
  rw [hv]
  rfl

/-! ## Lines with a request -/

/-- The words that choose a format. -/
def formatWords : Option OutputFormat → List Bytes
  | none => []
  | some format => [Utf8.ofText "--format", Utf8.ofText format.name]

/-- The word for hexadecimal arguments. -/
def hexWords (hex : Bool) : List Bytes :=
  if hex then [Utf8.ofText "--hex"] else []

/-- The word for raw bytes. -/
def rawWords (raw : Bool) : List Bytes :=
  if raw then [Utf8.ofText "--raw"] else []

/-- The line that shows a command: in a format or that of the settings, with the arguments given as
they are or in hexadecimal digits. -/
def parseLine (format : Option OutputFormat) (hex : Bool) (operands : List Bytes) : List Bytes :=
  Utf8.ofText "parse" :: (formatWords format ++ (hexWords hex ++ endOfOptions :: operands))

/-- The line that shows the bytes of a request: as they are or escaped, with the arguments given as
they are or in hexadecimal digits. -/
def encodeLine (raw hex : Bool) (operands : List Bytes) : List Bytes :=
  Utf8.ofText "encode" :: (rawWords raw ++ (hexWords hex ++ endOfOptions :: operands))

/-- The arguments that operands stand for. -/
def spelledArguments (hex : Bool) (operands : List Bytes) : Except UsageError (List Bytes) :=
  if hex then (Hexadecimal.readAll operands).mapError .notHexadecimal else .ok operands

/-- The options that such words leave. -/
def formatOptions : Option OutputFormat → List (String × Bytes)
  | none => []
  | some format => [(formatOption, Utf8.ofText format.name)]

/-- A flag as it is read, where it is set. -/
def flagOptions (long : String) (given : Bool) : List (String × Bytes) :=
  if given then [(long, [])] else []

theorem read_flag {specs : List OptionSpec} {word : Bytes} {long : String}
    (hend : word ≠ endOfOptions) (hword : readWord specs word = .ok (.option long []))
    (given : Bool) {rest : List Bytes} {words : Words} (h : Words.read specs true rest = .ok words) :
    Words.read specs true ((if given then [word] else []) ++ rest) =
      .ok { words with options := flagOptions long given ++ words.options } := by
  cases given with
  | false => exact h
  | true =>
    show Words.read specs true (word :: rest) = _
    rw [read_option hend hword, h]
    rfl

theorem readWords_parse (format : Option OutputFormat) (hex : Bool) (operands : List Bytes) :
    readWords (some .parse) Subcommand.parse.options true
        (formatWords format ++ (hexWords hex ++ endOfOptions :: operands)) =
      .ok ⟨formatOptions format ++ flagOptions hexOption hex, operands⟩ := by
  have hhex : Words.read Subcommand.parse.options true (hexWords hex ++ endOfOptions :: operands) =
      .ok ⟨flagOptions hexOption hex ++ [], operands⟩ :=
    read_flag (by decide) (by decide +kernel) hex (read_operands _ _ operands)
  have hread : Words.read Subcommand.parse.options true
      (formatWords format ++ (hexWords hex ++ endOfOptions :: operands)) =
        .ok ⟨formatOptions format ++ flagOptions hexOption hex, operands⟩ := by
    rw [List.append_nil] at hhex
    cases format with
    | none => exact hhex
    | some format =>
      have hword : readWord Subcommand.parse.options (Utf8.ofText "--format") =
          .ok (.awaiting formatOption formatOption) := by decide
      show Words.read _ true (_ :: _ :: (hexWords hex ++ endOfOptions :: operands)) = _
      rw [read_value (by decide) hword, hhex]
      rfl
  have hhelp : Words.has ⟨formatOptions format ++ flagOptions hexOption hex, operands⟩ helpOption =
      false := by
    cases format <;> cases hex <;> rfl
  rw [readWords, hread]
  simp only [hhelp, Bool.false_eq_true, if_false]

theorem readWords_encode (raw hex : Bool) (operands : List Bytes) :
    readWords (some .encode) Subcommand.encode.options true
        (rawWords raw ++ (hexWords hex ++ endOfOptions :: operands)) =
      .ok ⟨flagOptions rawOption raw ++ flagOptions hexOption hex, operands⟩ := by
  have hhex : Words.read Subcommand.encode.options true (hexWords hex ++ endOfOptions :: operands) =
      .ok ⟨flagOptions hexOption hex ++ [], operands⟩ :=
    read_flag (by decide) (by decide +kernel) hex (read_operands _ _ operands)
  rw [List.append_nil] at hhex
  have hread : Words.read Subcommand.encode.options true
      (rawWords raw ++ (hexWords hex ++ endOfOptions :: operands)) =
        .ok ⟨flagOptions rawOption raw ++ flagOptions hexOption hex, operands⟩ :=
    read_flag (by decide) (by decide +kernel) raw hhex
  have hhelp : Words.has ⟨flagOptions rawOption raw ++ flagOptions hexOption hex, operands⟩
      helpOption = false := by
    cases raw <;> cases hex <;> rfl
  rw [readWords, hread]
  simp only [hhelp, Bool.false_eq_true, if_false]

theorem chosenFormat_parse (settings : Settings) (format : Option OutputFormat) (hex : Bool)
    (operands : List Bytes) :
    chosenFormat settings ⟨formatOptions format ++ flagOptions hexOption hex, operands⟩ =
      .ok (format.getD settings.format) := by
  have known : ∀ f : OutputFormat,
      OutputFormat.all.find? (fun g => Utf8.ofText g.name = Utf8.ofText f.name) = some f := by
    intro f
    cases f <;> decide
  cases format with
  | none => cases hex <;> rfl
  | some format =>
    have hlast : Words.last? ⟨formatOptions (some format) ++ flagOptions hexOption hex, operands⟩
        formatOption = some (Utf8.ofText format.name) := by
      cases hex <;> rfl
    simp only [chosenFormat, hlast, known, Option.getD_some]

theorem requestArguments_parse (format : Option OutputFormat) (hex : Bool)
    (operands : List Bytes) :
    requestArguments ⟨formatOptions format ++ flagOptions hexOption hex, operands⟩ =
      spelledArguments hex operands := by
  cases format <;> cases hex <;> rfl

/-- A line that shows a command is read to its end; only its operands may be misspelled. -/
theorem runSubcommand_parse (settings : Settings) (debug : Bool) (format : Option OutputFormat)
    (hex : Bool) (operands : List Bytes) :
    runSubcommand settings debug .parse
        (formatWords format ++ (hexWords hex ++ endOfOptions :: operands)) =
      ((spelledArguments hex operands).mapError .misuse).map
        (showRequest debug (format.getD settings.format)) := by
  rw [runSubcommand, readWords_parse, Results.ok_bind]
  simp only [runParse, chosenFormat_parse, requestArguments_parse, Results.ok_bind]
  cases spelledArguments hex operands <;> rfl

/-- A line that shows the bytes of a request is read to its end, and must have an operand. -/
theorem runSubcommand_encode (settings : Settings) (debug raw hex : Bool) (operands : List Bytes) :
    runSubcommand settings debug .encode
        (rawWords raw ++ (hexWords hex ++ endOfOptions :: operands)) =
      if operands = [] then .error (.misuse .noArguments)
      else ((spelledArguments hex operands).mapError .misuse).map (showWire raw) := by
  generalize hw : (⟨flagOptions rawOption raw ++ flagOptions hexOption hex, operands⟩ : Words) = words
  have hoperands : words.operands = operands := by
    rw [← hw]
  have hraw : words.has rawOption = raw := by
    rw [← hw]
    cases raw <;> cases hex <;> rfl
  have harguments : requestArguments words = spelledArguments hex operands := by
    rw [← hw]
    cases raw <;> cases hex <;> rfl
  rw [runSubcommand, readWords_encode, hw, Results.ok_bind]
  simp only [runEncode, hoperands, harguments, hraw]
  split
  · rfl
  · cases spelledArguments hex operands <;> rfl

/-- Under settings that are read, only misspelled operands keep a command from being shown. -/
theorem run_parseLine {env : Environment} {settings : Settings} {severity : Nat}
    (hs : Settings.read env = .ok settings) (hv : settings.severity = .ok severity)
    (format : Option OutputFormat) (hex : Bool) (operands : List Bytes) :
    run env (parseLine format hex operands) =
      .ofRun (((spelledArguments hex operands).mapError .misuse).map
        (showRequest (severity ≤ LogLevel.debug.severity) (format.getD settings.format))) := by
  show run env (Utf8.ofText Subcommand.parse.name :: _) = _
  rw [run_of_read hs hv, runSubcommand_parse]

/-- Nothing else keeps the bytes of a request from being shown either, if the line has an
operand. -/
theorem run_encodeLine {env : Environment} {settings : Settings}
    (hs : Settings.read env = .ok settings) (raw hex : Bool) {operands : List Bytes}
    (hne : operands ≠ []) :
    run env (encodeLine raw hex operands) =
      .ofRun (((spelledArguments hex operands).mapError .misuse).map (showWire raw)) := by
  obtain ⟨severity, hv⟩ := Settings.severity_of_read hs
  show run env (Utf8.ofText Subcommand.encode.name :: _) = _
  rw [run_of_read hs hv, runSubcommand_encode, if_neg hne]

/-! ## Lines that show a request -/

/-- The line shows the request with these arguments in a format: it names the command for it, the
settings are read, the log has a level, and the words behind the command give the format and the
arguments. -/
inductive Shows (env : Environment) (args : List Bytes) (format : OutputFormat)
    (arguments : List Bytes) : Prop where
  | intro {before behind : Words} {rest : List Bytes} {settings : Settings} {severity : Nat}
      (line : Invocation.read args = .ok ⟨before, .parse, rest⟩)
      (environment : Settings.read env = .ok settings)
      (level : (overrideLevel before settings).severity = .ok severity)
      (words : readWords (some .parse) Subcommand.parse.options true rest = .ok behind)
      (chosen : chosenFormat settings behind = .ok format)
      (given : requestArguments behind = .ok arguments)

/-- Every request has such a line: its arguments are written behind two dashes. -/
theorem shows_parseLine {env : Environment} {settings : Settings} {hex : Bool}
    {operands arguments : List Bytes} (hs : Settings.read env = .ok settings)
    (ha : spelledArguments hex operands = .ok arguments) (format : Option OutputFormat) :
    Shows env (parseLine format hex operands) (format.getD settings.format) arguments := by
  obtain ⟨severity, hv⟩ := Settings.severity_of_read hs
  rw [← requestArguments_parse format hex operands] at ha
  exact .intro (read_named .parse _) hs hv (readWords_parse format hex operands)
    (chosenFormat_parse settings format hex operands) ha

theorem chosenFormat_overrideLevel (before behind : Words) (settings : Settings) :
    chosenFormat (overrideLevel before settings) behind = chosenFormat settings behind := by
  have hformat : (overrideLevel before settings).format = settings.format := by
    unfold overrideLevel
    split <;> rfl
  rw [chosenFormat, hformat]
  rfl

theorem run_of_shows {env : Environment} {args arguments : List Bytes} {format : OutputFormat}
    (h : Shows env args format arguments) :
    ∃ debug, run env args = .done (showRequest debug format arguments) := by
  obtain @⟨before, behind, rest, settings, severity, line, environment, level, words, chosen,
    given⟩ := h
  refine ⟨severity ≤ LogLevel.debug.severity, ?_⟩
  rw [run, runChecked, line, Results.ok_bind, environment]
  show Result.ofRun ((overrideLevel before settings).severity.mapError .badLevel >>= _) = _
  rw [level]
  show Result.ofRun (runSubcommand _ _ .parse rest) = _
  rw [runSubcommand, words, Results.ok_bind]
  simp only [runParse, chosenFormat_overrideLevel, chosen, given, Results.ok_bind]
  rfl

theorem run_of_decode {env : Environment} {args arguments : List Bytes} {format : OutputFormat}
    {c : Command} (h : Shows env args format arguments)
    (hd : Request.decode (.request arguments) = .ok c) :
    ∃ log, run env args = .done ⟨0, Utf8.ofText (printedAll (showCommand c format)), log⟩ := by
  obtain ⟨debug, hrun⟩ := run_of_shows h
  refine ⟨logged debug (Request.acceptedLine c), ?_⟩
  rw [hrun, showRequest, hd]
  rfl

theorem run_parseLine_of_decode {env : Environment} {settings : Settings} {hex : Bool}
    {operands arguments : List Bytes} {c : Command} (hs : Settings.read env = .ok settings)
    (ha : spelledArguments hex operands = .ok arguments)
    (hd : Request.decode (.request arguments) = .ok c) (format : Option OutputFormat) :
    ∃ log, run env (parseLine format hex operands) =
      .done ⟨0, Utf8.ofText (printedAll (showCommand c (format.getD settings.format))), log⟩ :=
  run_of_decode (shows_parseLine hs ha format) hd

end CommandLine

end StreamRequest
