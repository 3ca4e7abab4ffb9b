/-
The settings of the command line, from the environment.

The level of the log is named in any case, and so is the format in which
commands are shown. Of two bad settings the level is reported.

Variables are taken to be text. One that is not, and would be seen with
surrogates for its stray bytes, is left out here: no name of a level or of a
format has a surrogate in it in any case, so such a variable is a bad setting.
-/
import StreamRequest.LogLevel
import StreamRequest.Text.Ragged

namespace StreamRequest

/-- How commands are shown. -/
inductive OutputFormat where
  | table
  | json
  deriving DecidableEq, Repr

namespace OutputFormat

/-- The word that names a format. -/
def name : OutputFormat → String
  | .table => "table"
  | .json => "json"

/-- The formats in the order in which they are offered. -/
def all : List OutputFormat := [.table, .json]

/-- The format that a word names, in exactly these letters. -/
def ofName? (name : String) : Option OutputFormat :=
  all.find? (·.name = name)

end OutputFormat

/-- The variables that the settings come from, where they are set to a text. -/
structure Environment where
  logLevel : Option String
  outputFormat : Option String
  deriving DecidableEq, Repr

/-- The settings: the name of a level of the log, which may be anything, and a format. -/
structure Settings where
  levelName : Ragged
  format : OutputFormat
  deriving DecidableEq, Repr

namespace Settings

/-- The variable that names the level of the log. -/
def levelVariable : String := "MEILIES_LOG_LEVEL"

/-- The variable that names the format. -/
def formatVariable : String := "MEILIES_OUTPUT_FORMAT"

/-- A variable whose value, in its case, is no setting. -/
inductive Fault where
  | level (name : String)
  | format (name : String)
  deriving DecidableEq, Repr

/-- What is said of a bad variable, with its value in the case it was looked up in. -/
def Fault.message : Fault → String
  | .level name => "Invalid " ++ levelVariable ++ ": " ++ name
  | .format name =>
    "Invalid " ++ formatVariable ++ ": " ++ name ++ " (expected one of: " ++
      ", ".intercalate (OutputFormat.all.map (·.name)) ++ ")"

/-- The name of the level where no variable is set. -/
def standardLevel : String := "WARNING"

/-- The settings where no variable is set. -/
def standard : Settings := ⟨.ofText standardLevel, .table⟩

/-- The settings of an environment. -/
def read (env : Environment) : Except Fault Settings :=
  let level := Casing.upper (env.logLevel.getD standardLevel)
  let format := Casing.lower (env.outputFormat.getD standard.format.name)
  match LogLevel.ofName? level, OutputFormat.ofName? format with
  | none, _ => .error (.level level)
  | some _, none => .error (.format format)
  | some _, some known => .ok ⟨.ofText level, known⟩

/-- The severity of the log under these settings. A name with stray bytes is that of no level. -/
def severity (settings : Settings) : Except LogLevel.Fault Nat :=
  match settings.levelName.toText with
  | .ok name => LogLevel.severityOf name
  | .error _ => .ok LogLevel.warning.severity

end Settings

end StreamRequest
