/-
Lines that name a level of the log themselves.

Such a line is carried out as the line without the level, under settings in which
that level has taken the place of the one from the environment (`run_levelled`).
The environment is read all the same, and first. So the level of the variable
never shows where it is one (`read_of_names`), and where it is none the run ends
with it.
-/
import StreamRequest.Proofs.CommandLine.Run
import StreamRequest.Proofs.Text.Ascii

namespace StreamRequest

/-! ## Names of levels -/

namespace Ragged

@[simp] theorem ofBytes_ofText (text : String) : ofBytes (Utf8.ofText text) = ofText text := by
  rw [ofBytes, Utf8.pieces, Utf8.piecesWithin, Utf8.ofText, Utf8.decode_encode]
  rfl

@[simp] theorem upper_ofText (text : String) : (ofText text).upper = ofText (Casing.upper text) := by
  unfold upper ofText Casing.upper
  rw [List.flatMap_map, String.toList_ofList, List.map_flatMap]

end Ragged

/-- A text names a level if it is a name of the level once it is in capitals. -/
def LogLevel.Names (text : String) (level : LogLevel) : Prop :=
  ofName? (Casing.upper text) = some level

instance (text : String) (level : LogLevel) : Decidable (LogLevel.Names text level) :=
  inferInstanceAs (Decidable (_ = _))

theorem LogLevel.Names.ne_empty {text : String} {level : LogLevel} (h : Names text level) :
    text ≠ "" := by
  rintro rfl
  have hnone : ofName? (Casing.upper "") = none := by decide
  rw [Names, hnone] at h
  cases h

namespace Settings

/-- A text is taken for a level if the environment may hold it as one. -/
def Takes (text : String) : Prop :=
  ∃ settings, read ⟨some text, none⟩ = .ok settings

/-- Of the environment's level only the name reaches the settings; all else is read without it. -/
theorem read_of_names {text : String} {level : LogLevel} (h : LogLevel.Names text level)
    (format : Option String) :
    read ⟨some text, format⟩ = (read ⟨none, format⟩).map fun settings =>
      { settings with levelName := .ofText (Casing.upper text) } := by
  have hstandard : LogLevel.ofName? (Casing.upper standardLevel) = some .warning := by decide
  have hnamed : LogLevel.ofName? (Casing.upper text) = some level := h
  simp only [read, Option.getD_none, Option.getD_some, hstandard, hnamed]
  cases OutputFormat.ofName? (Casing.lower (format.getD standard.format.name)) <;> rfl

theorem read_of_not_names {text : String} (h : ∀ level, ¬LogLevel.Names text level)
    (format : Option String) : read ⟨some text, format⟩ = .error (.level (Casing.upper text)) := by
  have hnone : LogLevel.ofName? (Casing.upper text) = none :=
    Option.eq_none_iff_forall_ne_some.2 h
  simp only [read, Option.getD_some, hnone]

theorem takes_iff {text : String} : Takes text ↔ ∃ level, LogLevel.Names text level := by
  constructor
  · intro h
    obtain ⟨settings, hs⟩ := h
    by_cases hnamed : ∃ level, LogLevel.Names text level
    · exact hnamed
    · rw [read_of_not_names fun level hl => hnamed ⟨level, hl⟩] at hs
      cases hs
  · intro h
    obtain ⟨level, hl⟩ := h
    have hstandard : read ⟨none, none⟩ = .ok standard := by decide
    refine ⟨⟨.ofText (Casing.upper text), .table⟩, ?_⟩
    rw [read_of_names hl, hstandard]
    rfl

instance (text : String) : Decidable (Takes text) :=
  match h : LogLevel.ofName? (Casing.upper text) with
  | some level => isTrue (takes_iff.2 ⟨level, h⟩)
  | none => isFalse fun ht => by
      obtain ⟨level, hl⟩ := takes_iff.1 ht
      rw [LogLevel.Names, h] at hl
      cases hl

end Settings

namespace CommandLine

/-! ## Lines -/

/-- The words before a command that name the level of the log. -/
def levelWords (level : String) : List Bytes :=
  [Utf8.ofText "--log-level", Utf8.ofText level]

theorem read_levelled (level : String) (subcommand : Subcommand) (rest : List Bytes) :
    Invocation.read (levelWords level ++ Utf8.ofText subcommand.name :: rest) =
      .ok ⟨⟨[(levelOption, Utf8.ofText level)], Utf8.ofText subcommand.name :: rest⟩, subcommand,
        rest⟩ := by
  have hlevel : readWord globalOptions (Utf8.ofText "--log-level") =
      .ok (.awaiting levelOption levelOption) := by decide
  have hwords : readWords none globalOptions false
      (levelWords level ++ Utf8.ofText subcommand.name :: rest) =
        .ok ⟨[(levelOption, Utf8.ofText level)], Utf8.ofText subcommand.name :: rest⟩ := by
    rw [readWords, levelWords, List.cons_append, List.singleton_append,
      read_value (by decide) hlevel, read_name]
    rfl
  rw [Invocation.read, hwords, Results.ok_bind]
  simp only [ofName?_name]

theorem overrideLevel_levelled {level : String} (h : level ≠ "") (operands : List Bytes)
    (settings : Settings) :
    overrideLevel ⟨[(levelOption, Utf8.ofText level)], operands⟩ settings =
      { settings with levelName := .ofText (Casing.upper level) } := by
  have hne : Utf8.ofText level ≠ [] := by
    intro e
    exact h (Utf8.ofText_injective (t := "") e)
  obtain ⟨b, more, hb⟩ := List.exists_cons_of_ne_nil hne
  have hlast : Words.last? ⟨[(levelOption, Utf8.ofText level)], operands⟩ levelOption =
      some (b :: more) := by
    rw [← hb]
    rfl
  simp only [overrideLevel, hlast]
  rw [← hb, Ragged.ofBytes_ofText, Ragged.upper_ofText]

/-- The level of the line takes the place of the other once the settings have been read. -/
theorem run_levelled {level : String} {named : LogLevel} (h : LogLevel.Names level named)
    (env : Environment) (subcommand : Subcommand) (rest : List Bytes) :
    run env (levelWords level ++ Utf8.ofText subcommand.name :: rest) = .ofRun (do
      let settings ← (Settings.read env).mapError fun fault => .misuse (.settings fault)
      runSubcommand { settings with levelName := .ofText (Casing.upper level) }
        (named.severity ≤ LogLevel.debug.severity) subcommand rest) := by
  rw [run, runChecked, read_levelled, Results.ok_bind]
  cases Settings.read env with
  | error fault => rfl
  | ok settings =>
    show Result.ofRun ((overrideLevel _ settings).severity.mapError .badLevel >>= _) = _
    rw [overrideLevel_levelled h.ne_empty, Settings.severity_of_name h]
    rfl

/-- Without a level of its own, a line is carried out under that of the environment. -/
theorem run_of_names {level : String} {named : LogLevel} (h : LogLevel.Names level named)
    (format : Option String) (subcommand : Subcommand) (rest : List Bytes) :
    run ⟨some level, format⟩ (Utf8.ofText subcommand.name :: rest) = .ofRun (do
      let settings ← (Settings.read ⟨none, format⟩).mapError fun fault => .misuse (.settings fault)
      runSubcommand { settings with levelName := .ofText (Casing.upper level) }
        (named.severity ≤ LogLevel.debug.severity) subcommand rest) := by
  cases hr : Settings.read ⟨none, format⟩ with
  | error fault =>
    rw [run_named, Settings.read_of_names h, hr]
    rfl
  | ok settings =>
    have hs : Settings.read ⟨some level, format⟩ =
        .ok { settings with levelName := .ofText (Casing.upper level) } := by
      rw [Settings.read_of_names h, hr]
      rfl
    rw [run_of_read hs (Settings.severity_of_name h settings.format)]
    rfl

/-- **A level on the line overrides that of the environment**, if the variable is not set or is
taken for a level: then what is left is what the line without it leaves where the variable holds
that level. A variable that is not taken for a level ends the run all the same. -/
theorem level_of_line_overrides_variable {level : String} (h : Settings.Takes level)
    (subcommand : Subcommand) (rest : List Bytes) (format : Option String) :
    (∀ held : Option String, (∀ text ∈ held, Settings.Takes text) →
      run ⟨held, format⟩ (levelWords level ++ Utf8.ofText subcommand.name :: rest) =
        run ⟨some level, format⟩ (Utf8.ofText subcommand.name :: rest)) ∧
    ∀ text, ¬Settings.Takes text →
      run ⟨some text, format⟩ (levelWords level ++ Utf8.ofText subcommand.name :: rest) =
        .done (misuse (.settings (.level (Casing.upper text)))) := by
  obtain ⟨named, hnamed⟩ := Settings.takes_iff.1 h
  refine ⟨fun held hv => ?_, fun text ht => ?_⟩
  · rw [run_levelled hnamed, run_of_names hnamed]
    cases held with
    | none => rfl
    | some text =>
      obtain ⟨other, ho⟩ := Settings.takes_iff.1 (hv text rfl)
      rw [Settings.read_of_names ho]
      cases Settings.read ⟨none, format⟩ <;> rfl
  · have hnone : ∀ other, ¬LogLevel.Names text other := fun other ho =>
      ht (Settings.takes_iff.2 ⟨other, ho⟩)
    rw [run_levelled hnamed, Settings.read_of_not_names hnone]
    rfl

/-- A level in small letters on the line, with a level and without one in the variable. -/
theorem level_of_line_overrides_variable_debug :
    let rest := [Utf8.ofText "subscribe", Utf8.ofText "orders:-2"]
    let line := levelWords "debug" ++ Utf8.ofText Subcommand.parse.name :: rest
    Settings.Takes "debug" ∧ Settings.Takes "Fatal" ∧ ¬Settings.Takes "loud" ∧
      run ⟨some "Fatal", none⟩ line =
        .done ⟨1, [], "DEBUG: Request rejected: InvalidOffsetError\nERR invalid offset: '-2'\n"⟩ ∧
      run ⟨some "loud", none⟩ line = .done (misuse (.settings (.level "LOUD"))) := by
  intro rest line
  have hdebug : Settings.Takes "debug" := by decide
  have hfatal : Settings.Takes "Fatal" := by decide
  have hloud : ¬Settings.Takes "loud" := by decide
  obtain ⟨hoverrides, hbad⟩ := level_of_line_overrides_variable hdebug .parse rest none
  refine ⟨hdebug, hfatal, hloud, ?_, hbad "loud" hloud⟩
  rw [hoverrides (some "Fatal") fun text ht => Option.some.inj ht ▸ hfatal]
  decide

/-- A variable that is to be overridden is judged all the same. -/
theorem bad_variable_not_overridden :
    let line := levelWords "debug" ++ [Utf8.ofText "encode", Utf8.ofText "a"]
    Settings.Takes "debug" ∧
      run ⟨none, none⟩ line = .done ⟨0, Utf8.ofText "*1\\r\\n$1\\r\\na\\r\\n\n", ""⟩ ∧
      run ⟨some "loud", none⟩ line = .done ⟨2, [], "Error: Invalid MEILIES_LOG_LEVEL: LOUD\n"⟩ := by
  refine ⟨by decide, ?_, ?_⟩
  · decide
  · decide

end CommandLine

end StreamRequest
