/-
Levels of a log.

A level has a name in capitals and a severity. A log shows a line if the
severity of the line is at least that of the log.
-/
namespace StreamRequest

/-- The levels, from the most severe to the one that shows everything. -/
inductive LogLevel where
  | critical
  | error
  | warning
  | info
  | debug
  | notSet
  deriving DecidableEq, Repr

namespace LogLevel

/-- The number of a level. -/
def severity : LogLevel → Nat
  | .critical => 50
  | .error => 40
  | .warning => 30
  | .info => 20
  | .debug => 10
  | .notSet => 0

/-- The names of the levels; two levels have two names. -/
def names : List (String × LogLevel) :=
  [("CRITICAL", .critical), ("FATAL", .critical), ("ERROR", .error), ("WARNING", .warning),
   ("WARN", .warning), ("INFO", .info), ("DEBUG", .debug), ("NOTSET", .notSet)]

/-- The level with a name, in exactly these letters. -/
def ofName? (name : String) : Option LogLevel :=
  names.lookup name

/-! ## Names that are not checked -/

/-- A name that the log uses for something else than a level. -/
inductive Fault where
  /-- The name of a text. -/
  | text (found : String)
  /-- The name of a table. -/
  | table (found : String)
  deriving DecidableEq, Repr

/-- What is said of a name that is no level. -/
def Fault.message : Fault → String
  | .text found => "Unknown level: " ++ found
  | .table found => "Level not an integer or a valid string: " ++ found

/-- The names that the log uses for its layouts. -/
def reserved : List (String × Fault) :=
  [("BASIC_FORMAT", .text "'%(levelname)s:%(name)s:%(message)s'"),
   ("_STYLES", .table <| "\x7b" ++
      "'%': (<class 'logging.PercentStyle'>, '%(levelname)s:%(name)s:%(message)s'), " ++
      "'\x7b': (<class 'logging.StrFormatStyle'>, " ++
      "'\x7blevelname\x7d:\x7bname\x7d:\x7bmessage\x7d'), " ++
      "'$': (<class 'logging.StringTemplateStyle'>, " ++
      "'$\x7blevelname\x7d:$\x7bname\x7d:$\x7bmessage\x7d')" ++ "\x7d")]

/-- The severity that a name gives to a log: that of its level, or of a warning if there is no
such level. -/
def severityOf (name : String) : Except Fault Nat :=
  match ofName? name with
  | some level => .ok level.severity
  | none =>
    match reserved.lookup name with
    | some fault => .error fault
    | none => .ok warning.severity

end LogLevel

end StreamRequest
