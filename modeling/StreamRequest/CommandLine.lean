/-
The command line: `parse` reads its arguments as one request and shows the
command, `encode` shows the bytes of the request, and `config` the settings.

`run` is a function of the environment and the words alone. What is wrong is
found in a fixed order: the options before the command, the command, the
settings, the level of the log, the words behind the command. A request for
help is met as soon as the options it stands among are sound. Text is printed
without control sequences; log lines and raw bytes are written as they are.
Stray bytes are escaped in what is said beside the output, and cannot be put
out as text.

Left out are the usage lines that stand above what is said of a misuse, the
wording of the help, and encodings of words other than UTF-8.
-/
import StreamRequest.CommandLine.Show
import StreamRequest.CommandLine.UsageError
import StreamRequest.Request
import StreamRequest.Text.EscapedBytes
import StreamRequest.Value.Wire

namespace StreamRequest.CommandLine

/-! ## Results -/

/-- What a run leaves: its exit code, its output, and what it says beside it. -/
structure Outcome where
  exit : Nat
  output : Bytes
  diagnostics : String
  deriving DecidableEq, Repr

/-- A text as it is printed, with a line end and without control sequences. -/
def printed (text : String) : String :=
  ControlSequence.strip (text ++ "\n")

/-- Texts as they are printed one after the other. -/
def printedAll (texts : List String) : String :=
  String.join (texts.map printed)

/-- A run that succeeds with text for output. -/
def success (texts : List String) (log : String) : Outcome :=
  ⟨0, Utf8.ofText (printedAll texts), log⟩

/-- A text with stray bytes as it is printed, with a line end and without control sequences. -/
def printedRagged (text : Ragged) : Ragged :=
  (text ++ Ragged.ofText "\n").withoutSequences

/-- A run that succeeds with text for output, unless there are stray bytes in it. -/
def successUnlessStray (texts : List Ragged) : Except Ragged.StrayRun Outcome := do
  let lines ← texts.mapM fun text => (printedRagged text).toText
  return ⟨0, Utf8.ofText (String.join lines), ""⟩

/-- A run that ends because of a usage error. The lines on how the command is used, which stand
before `Error:`, are left out. -/
def misuse (error : UsageError) : Outcome :=
  ⟨2, [], (printedRagged (Ragged.ofText "Error: " ++ error.message)).escaped⟩

/-- Log lines, where the log shows them. -/
def logged (debug : Bool) (line : String) : String :=
  if debug then line ++ "\n" else ""

/-! ## Commands -/

/-- The commands of the command line. -/
inductive Subcommand where
  | parse
  | encode
  | config
  deriving DecidableEq, Repr

/-- The word that names a command. -/
def Subcommand.name : Subcommand → String
  | .parse => "parse"
  | .encode => "encode"
  | .config => "config"

/-- The commands in the order of their names. -/
def Subcommand.all : List Subcommand := [.config, .encode, .parse]

/-- The command that a word names, in exactly these letters. -/
def Subcommand.ofName? (name : Bytes) : Option Subcommand :=
  Subcommand.all.find? fun s => Utf8.ofText s.name = name

/-- Why a run leaves nothing that it should. -/
inductive Stop where
  | misuse (error : UsageError)
  /-- The level of the log is the name of something else. -/
  | badLevel (fault : LogLevel.Fault)
  /-- There are stray bytes in a text for output. -/
  | unprintable (strays : Ragged.StrayRun)
  /-- Help is asked for, with a command or before it. -/
  | help (subcommand : Option Subcommand)
  deriving DecidableEq, Repr

/-- The option for the format in which a command is shown. -/
def formatOption : String := "--format"

/-- The option for arguments in hexadecimal digits. -/
def hexOption : String := "--hex"

/-- The option for bytes as they are. -/
def rawOption : String := "--raw"

/-- The option for settings as JSON. -/
def jsonOption : String := "--json"

/-- The option for the level of the log. -/
def levelOption : String := "--log-level"

/-- The option for help. -/
def helpOption : String := "--help"

/-- The options of a command, in the order of their names. -/
def Subcommand.options : Subcommand → List OptionSpec
  | .parse => [.valued formatOption (some 'f'), .flag helpOption, .flag hexOption]
  | .encode => [.flag helpOption, .flag hexOption, .flag rawOption]
  | .config => [.flag helpOption, .flag jsonOption]

/-- The options before the command, in the order of their names. -/
def globalOptions : List OptionSpec := [.flag helpOption, .valued levelOption none]

/-- The arguments of a request: the operands, or what they spell in hexadecimal digits. Operands
keep the bytes that they are given as: words are taken to be read as UTF-8 with stray bytes kept, and
to be turned into bytes again in the same way. Other encodings of words are left out. -/
def requestArguments (words : Words) : Except UsageError (List Bytes) :=
  if words.has hexOption then (Hexadecimal.readAll words.operands).mapError .notHexadecimal
  else .ok words.operands

/-- The format that the option names, or else that of the settings. -/
def chosenFormat (settings : Settings) (words : Words) : Except UsageError OutputFormat :=
  match words.last? formatOption with
  | none => .ok settings.format
  | some given =>
    match OutputFormat.all.find? fun format => Utf8.ofText format.name = given with
    | some format => .ok format
    | none => .error (.unknownFormat given)

/-- Shows the command that the arguments ask for, or the reply that refuses them. -/
def showRequest (debug : Bool) (format : OutputFormat) (arguments : List Bytes) : Outcome :=
  match Request.decode (.request arguments) with
  | .ok command =>
    success (showCommand command format) (logged debug (Request.acceptedLine command))
  | .error error =>
    ⟨1, [], logged debug (Request.rejectedLine error) ++ printed error.replyText⟩

/-- Shows the bytes of the request with the arguments, as they are or escaped. Every such request
has bytes. -/
def showWire (raw : Bool) (arguments : List Bytes) : Outcome :=
  match (Value.request arguments).encode with
  | .ok data => if raw then ⟨0, data, ""⟩ else success [EscapedBytes.text data] ""
  | .error fault => ⟨1, [], fault.message⟩

/-- Shows the command that the words ask for. The format is looked at before the arguments. -/
def runParse (settings : Settings) (debug : Bool) (words : Words) : Except UsageError Outcome := do
  let format ← chosenFormat settings words
  let arguments ← requestArguments words
  return showRequest debug format arguments

/-- Shows the bytes of a request; it needs an argument. -/
def runEncode (words : Words) : Except UsageError Outcome :=
  if words.operands = [] then .error .noArguments
  else do
    let arguments ← requestArguments words
    return showWire (words.has rawOption) arguments

/-- Shows the settings; it takes no arguments. -/
def runConfig (settings : Settings) (words : Words) : Except Stop Outcome :=
  if words.operands ≠ [] then .error (.misuse (.extraArguments words.operands))
  else if words.has jsonOption then .ok (success [settingsJson settings] "")
  else (successUnlessStray (settingsLines settings)).mapError .unprintable

/-! ## The whole line -/

/-- Tells the words before or behind a command apart, unless they ask for help. -/
def readWords (subcommand : Option Subcommand) (specs : List OptionSpec) (mixed : Bool)
    (args : List Bytes) : Except Stop Words :=
  match Words.read specs mixed args with
  | .error fault => .error (.misuse (.option fault))
  | .ok words => if words.has helpOption then .error (.help subcommand) else .ok words

/-- Carries out a command under its settings, with a log at debug level or not. -/
def runSubcommand (settings : Settings) (debug : Bool) (subcommand : Subcommand)
    (args : List Bytes) : Except Stop Outcome := do
  let words ← readWords (some subcommand) subcommand.options true args
  match subcommand with
  | .parse => (runParse settings debug words).mapError .misuse
  | .encode => (runEncode words).mapError .misuse
  | .config => runConfig settings words

/-- What stops a run whose command has no known name. The name may stand behind two dashes and
look like an option: then what is wrong with it as an option is said first. -/
def unknownCommand (name : Bytes) (rest : List Bytes) : Stop :=
  match readWords none globalOptions false (name :: rest) with
  | .error stop => stop
  | .ok _ => .misuse (.unknownCommand name (Similarity.near (Subcommand.all.map (·.name)) name))

/-- The command with the words before it and behind it. -/
structure Invocation where
  words : Words
  subcommand : Subcommand
  rest : List Bytes
  deriving DecidableEq, Repr

/-- The words before the command, the command, and the words behind it. A line without words asks
for help. -/
def Invocation.read (args : List Bytes) : Except Stop Invocation := do
  let words ← readWords none globalOptions false args
  match words.operands with
  | [] => .error (if args = [] then .help none else .misuse .noCommand)
  | name :: rest =>
    match Subcommand.ofName? name with
    | some subcommand => .ok ⟨words, subcommand, rest⟩
    | none => .error (unknownCommand name rest)

/-- The settings with the level that an option names, in capitals; an empty name changes
nothing. -/
def overrideLevel (words : Words) (settings : Settings) : Settings :=
  match words.last? levelOption with
  | none | some [] => settings
  | some given => { settings with levelName := (Ragged.ofBytes given).upper }

/-- What the command line does, or why it does nothing. -/
def runChecked (env : Environment) (args : List Bytes) : Except Stop Outcome := do
  let invocation ← Invocation.read args
  let settings ← (Settings.read env).mapError fun fault => .misuse (.settings fault)
  let settings := overrideLevel invocation.words settings
  let severity ← settings.severity.mapError .badLevel
  let debug := severity ≤ LogLevel.debug.severity
  runSubcommand settings debug invocation.subcommand invocation.rest

/-- What comes of a command line. -/
inductive Result where
  /-- The run left something; a usage error is left as well. -/
  | done (outcome : Outcome)
  /-- The level of the log is the name of something else, and nothing is done. -/
  | badLevel (fault : LogLevel.Fault)
  /-- There are stray bytes in a text for output, and the run breaks off. -/
  | unprintable (strays : Ragged.StrayRun)
  /-- Help is to be shown, on a command or on all of them. -/
  | help (subcommand : Option Subcommand)
  deriving DecidableEq, Repr

/-- The help on a command, or on all of them: what may be written, and the options' names. -/
def helpLines : Option Subcommand → List String
  | some subcommand =>
    ["Usage: " ++ subcommand.name ++ " [OPTIONS] [ARGS]...",
      "Options: " ++ ", ".intercalate (subcommand.options.map (·.long))]
  | none =>
    ["Usage: [OPTIONS] COMMAND [ARGS]...",
      "Options: " ++ ", ".intercalate (globalOptions.map (·.long)),
      "Commands: " ++ ", ".intercalate (Subcommand.all.map (·.name))]

/-- What comes of a run that carried something out, or of why it did not. -/
def Result.ofRun : Except Stop Outcome → Result
  | .ok outcome => .done outcome
  | .error (.misuse error) => .done (misuse error)
  | .error (.badLevel fault) => .badLevel fault
  | .error (.unprintable strays) => .unprintable strays
  | .error (.help subcommand) => .help subcommand

/-- What comes of the command line in an environment. -/
def run (env : Environment) (args : List Bytes) : Result :=
  .ofRun (runChecked env args)

end StreamRequest.CommandLine
