/-
Which environments give settings, and which settings.

A level is looked up by the upper case of its text, and a format by the lower case of
its own. So a format is taken by its name in any case (`ofName?_lower_iff`), and a
level by a name that may also have a dotless i or a long s in it (`names_iff`). Reading
has three outcomes, and the level is judged first (`read_cases`).
-/
import StreamRequest.Proofs.CommandLine.Level
import StreamRequest.Proofs.Request.Name
import StreamRequest.Proofs.Text.UpperCase

namespace StreamRequest

open Bytes (SameButCase)

/-! ## Levels -/

namespace LogLevel

/-- The names of the levels, with the numbers that a log has for them. -/
def numbers : List (String × Nat) :=
  [("CRITICAL", 50), ("FATAL", 50), ("ERROR", 40), ("WARNING", 30), ("WARN", 30), ("INFO", 20),
   ("DEBUG", 10), ("NOTSET", 0)]

theorem numbers_eq : numbers = names.map fun (name, level) => (name, level.severity) := by
  decide

/-- A text spells a name in capitals if it is the name but for the case of its letters, where a
dotless i is taken for an i and a long s for an s. -/
def Spells (text name : String) : Prop :=
  SameButCase (Utf8.ofText (Casing.plainText text)) (Utf8.ofText name)

/-- A text spells the name of a level. -/
def IsLevel (text : String) : Prop :=
  ∃ entry ∈ numbers, Spells text entry.1

theorem ofName?_eq_some_iff {name : String} {level : LogLevel} :
    ofName? name = some level ↔ (name, level) ∈ names := by
  have known : ∀ entry ∈ names, ofName? entry.1 = some entry.2 := by decide
  exact ⟨mem_of_lookup, known (name, level)⟩

theorem upper_eq_iff_spells {name : String} {level : LogLevel} (h : (name, level) ∈ names)
    {text : String} : Casing.upper text = name ↔ Spells text name := by
  have capitals : ∀ entry ∈ names, Casing.Capitals entry.1 := by decide
  exact Casing.upper_eq_iff (capitals (name, level) h)

theorem names_iff {text : String} {level : LogLevel} :
    Names text level ↔ ∃ name, (name, level) ∈ names ∧ Spells text name := by
  rw [Names, ofName?_eq_some_iff]
  constructor
  · intro h
    exact ⟨Casing.upper text, h, (upper_eq_iff_spells h).1 rfl⟩
  · intro h
    obtain ⟨name, hm, hs⟩ := h
    rwa [(upper_eq_iff_spells hm).2 hs]

theorem isLevel_iff {text : String} : IsLevel text ↔ ∃ level, Names text level := by
  simp only [IsLevel, numbers_eq, List.mem_map, names_iff]
  constructor
  · intro h
    obtain ⟨entry, ⟨⟨name, level⟩, hm, rfl⟩, hs⟩ := h
    exact ⟨level, name, hm, hs⟩
  · intro h
    obtain ⟨level, name, hm, hs⟩ := h
    exact ⟨_, ⟨(name, level), hm, rfl⟩, hs⟩

end LogLevel

/-! ## Formats -/

namespace OutputFormat

/-- A text is the name of a format but for the case of its letters. -/
def IsFormat (text : String) : Prop :=
  ∃ name ∈ ["table", "json"], SameButCase (Utf8.ofText text) (Utf8.ofText name)

theorem ofName?_eq_some_iff {name : String} {format : OutputFormat} :
    ofName? name = some format ↔ name = format.name := by
  constructor
  · intro h
    have hfound := List.find?_some h
    exact (of_decide_eq_true hfound).symm
  · rintro rfl
    cases format <;> decide

theorem ofName?_lower_iff {text : String} {format : OutputFormat} :
    ofName? (Casing.lower text) = some format ↔
      SameButCase (Utf8.ofText text) (Utf8.ofText format.name) := by
  have plain : Request.PlainName format.name ∧ 'k' ∉ format.name.toList := by
    refine ⟨?_, ?_⟩
    · show ∀ b ∈ Utf8.ofText format.name, _
      cases format <;> decide +kernel
    · cases format <;> decide
  rw [ofName?_eq_some_iff, Request.lower_eq_iff plain.1 plain.2]

theorem isFormat_iff {text : String} :
    IsFormat text ↔ ∃ format, ofName? (Casing.lower text) = some format := by
  simp only [ofName?_lower_iff]
  constructor
  · intro h
    obtain ⟨name, hm, hs⟩ := h
    rcases List.mem_cons.1 hm with rfl | hm
    · exact ⟨.table, hs⟩
    · rw [List.mem_singleton.1 hm] at hs
      exact ⟨.json, hs⟩
  · intro h
    obtain ⟨format, hs⟩ := h
    refine ⟨format.name, ?_, hs⟩
    cases format <;> decide

end OutputFormat

/-! ## Environments -/

namespace Settings

open LogLevel (IsLevel Names Spells numbers)
open OutputFormat (IsFormat)

/-- The text that is read for a level. -/
def levelText (env : Environment) : String :=
  env.logLevel.getD "WARNING"

/-- The text that is read for a format. -/
def formatText (env : Environment) : String :=
  env.outputFormat.getD "table"

theorem read_eq (env : Environment) :
    read env =
      match LogLevel.ofName? (Casing.upper (levelText env)),
        OutputFormat.ofName? (Casing.lower (formatText env)) with
      | none, _ => .error (.level (Casing.upper (levelText env)))
      | some _, none => .error (.format (Casing.lower (formatText env)))
      | some _, some format => .ok ⟨.ofText (Casing.upper (levelText env)), format⟩ :=
  rfl

theorem read_of_spells {env : Environment} {name : String} {level : LogLevel} {format : OutputFormat}
    (hm : (name, level) ∈ LogLevel.names) (hs : Spells (levelText env) name)
    (hf : SameButCase (Utf8.ofText (formatText env)) (Utf8.ofText format.name)) :
    read env = .ok ⟨.ofText name, format⟩ := by
  simp only [read_eq, (LogLevel.upper_eq_iff_spells hm).2 hs, LogLevel.ofName?_eq_some_iff.2 hm,
    OutputFormat.ofName?_lower_iff.2 hf]

/-- **The outcomes of reading.** The text of the level is judged first. -/
theorem read_cases (env : Environment) :
    (¬IsLevel (levelText env) ∧ read env = .error (.level (Casing.upper (levelText env)))) ∨
    (IsLevel (levelText env) ∧ ¬IsFormat (formatText env) ∧
      read env = .error (.format (Casing.lower (formatText env)))) ∨
    ∃ name level, (name, level) ∈ LogLevel.names ∧ Spells (levelText env) name ∧
      ∃ format : OutputFormat,
        SameButCase (Utf8.ofText (formatText env)) (Utf8.ofText format.name) := by
  by_cases hl : IsLevel (levelText env)
  · obtain ⟨level, hn⟩ := LogLevel.isLevel_iff.1 hl
    by_cases hf : IsFormat (formatText env)
    · obtain ⟨format, hf⟩ := OutputFormat.isFormat_iff.1 hf
      obtain ⟨name, hm, hs⟩ := LogLevel.names_iff.1 hn
      exact .inr (.inr ⟨name, level, hm, hs, format, OutputFormat.ofName?_lower_iff.1 hf⟩)
    · have hnone : OutputFormat.ofName? (Casing.lower (formatText env)) = none :=
        Option.eq_none_iff_forall_ne_some.2 fun format h =>
          hf (OutputFormat.isFormat_iff.2 ⟨format, h⟩)
      have hsome : LogLevel.ofName? (Casing.upper (levelText env)) = some level := hn
      refine .inr (.inl ⟨hl, hf, ?_⟩)
      simp only [read_eq, hsome, hnone]
  · have hnone : LogLevel.ofName? (Casing.upper (levelText env)) = none :=
      Option.eq_none_iff_forall_ne_some.2 fun level h => hl (LogLevel.isLevel_iff.2 ⟨level, h⟩)
    refine .inl ⟨hl, ?_⟩
    simp only [read_eq, hnone]

theorem read_own {name : String} {level : LogLevel} (h : (name, level) ∈ LogLevel.names)
    (format : OutputFormat) : read ⟨some name, some format.name⟩ = .ok ⟨.ofText name, format⟩ := by
  have own : ∀ entry ∈ LogLevel.names, Spells entry.1 entry.1 := by
    show ∀ entry ∈ LogLevel.names, SameButCase _ _
    decide
  refine read_of_spells h ?_ ?_
  · show Spells name name
    exact own (name, level) h
  · show SameButCase (Utf8.ofText format.name) (Utf8.ofText format.name)
    exact .refl _

/-- **What an environment may hold.** The level is taken exactly if it spells the name of a level,
and the format exactly if it is the name of a format in any case; a level that is not taken is
reported, whatever the format is. The settings that are read have the number of the level that was
spelled, and they are read again from their own fields. -/
theorem read_takes_exactly (env : Environment) :
    ((∃ settings, read env = .ok settings) ↔
      IsLevel (levelText env) ∧ IsFormat (formatText env)) ∧
    (read env = .error (.level (Casing.upper (levelText env))) ↔ ¬IsLevel (levelText env)) ∧
    (read env = .error (.format (Casing.lower (formatText env))) ↔
      IsLevel (levelText env) ∧ ¬IsFormat (formatText env)) ∧
    ∀ settings, read env = .ok settings → ∃ name number, (name, number) ∈ numbers ∧
      Spells (levelText env) name ∧ settings.levelName = .ofText name ∧
      settings.severity = .ok number ∧
      SameButCase (Utf8.ofText (formatText env)) (Utf8.ofText settings.format.name) ∧
      read ⟨some name, some settings.format.name⟩ = .ok settings := by
  rcases read_cases env with ⟨hl, hr⟩ | ⟨hl, hf, hr⟩ |
    ⟨name, level, hm, hspells, format, hformat⟩
  · simp [hr, hl]
  · simp [hr, hl, hf]
  · have hr := read_of_spells hm hspells hformat
    have hl : IsLevel (levelText env) :=
      LogLevel.isLevel_iff.2 ⟨level, LogLevel.names_iff.2 ⟨name, hm, hspells⟩⟩
    have hf : IsFormat (formatText env) :=
      OutputFormat.isFormat_iff.2 ⟨format, OutputFormat.ofName?_lower_iff.2 hformat⟩
    refine ⟨by simp [hr, hl, hf], by simp [hr, hl], by simp [hr, hf], fun settings hs => ?_⟩
    obtain rfl := Except.ok.inj (hr.symm.trans hs)
    have hnumber : (name, level.severity) ∈ numbers := by
      rw [LogLevel.numbers_eq]
      exact List.mem_map_of_mem hm
    exact ⟨name, level.severity, hnumber, hspells, rfl,
      severity_of_name (LogLevel.ofName?_eq_some_iff.2 hm) format, hformat, read_own hm format⟩

/-- A level with a dotless i in it, and a format in both cases. -/
theorem read_takes_exactly_dotless :
    let env : Environment := ⟨some "crıtical", some "JsoN"⟩
    let settings : Settings := ⟨.ofText "CRITICAL", .json⟩
    read env = .ok settings ∧ ∃ name number, (name, number) ∈ numbers ∧
      Spells (levelText env) name ∧ settings.levelName = .ofText name ∧
      settings.severity = .ok number ∧
      SameButCase (Utf8.ofText (formatText env)) (Utf8.ofText settings.format.name) ∧
      read ⟨some name, some settings.format.name⟩ = .ok settings := by
  intro env settings
  have hs : read env = .ok settings := by decide
  exact ⟨hs, (read_takes_exactly env).2.2.2 settings hs⟩

end Settings

end StreamRequest
