/-
Command lines that cannot be carried out, and what is said of them.
-/
import StreamRequest.CommandLine.Options
import StreamRequest.Settings

namespace StreamRequest.CommandLine

/-- Why a command line cannot be carried out. -/
inductive UsageError where
  | option (fault : OptionFault)
  | noCommand
  /-- No command; `near` are the names it may be a slip of. -/
  | unknownCommand (name : Bytes) (near : List String)
  | settings (fault : Settings.Fault)
  | noArguments
  | unknownFormat (given : Bytes)
  | extraArguments (words : List Bytes)
  /-- An argument breaks off as hexadecimal digits at the position. -/
  | notHexadecimal (position : Nat)
  deriving DecidableEq, Repr

/-- What is added where other names may have been meant. -/
def suggestion : List String → String
  | [] => ""
  | [name] => " Did you mean " ++ Quoted.quote name ++ "?"
  | names => " (Did you mean one of: " ++ ", ".intercalate (names.map Quoted.quote) ++ "?)"

/-- What is said of a word that is no option. -/
def OptionFault.message : OptionFault → String
  | .unknown word near =>
    "No such option " ++ (Ragged.ofBytes word).quoted ++ "." ++ suggestion near
  | .valueMissing spelling => "Option " ++ Quoted.quote spelling ++ " requires an argument."
  | .valueUnexpected spelling => "Option " ++ Quoted.quote spelling ++ " does not take a value."

namespace UsageError

/-- The formats to choose from, as they are said. -/
def formatChoices : String :=
  ", ".intercalate (OutputFormat.all.map fun format => Quoted.quote format.name)

/-- What is said of the command line. Only arguments that are too many are shown as they are. -/
def message : UsageError → Ragged
  | .option fault => .ofText fault.message
  | .noCommand => .ofText "Missing command."
  | .unknownCommand name near =>
    .ofText ("No such command " ++ (Ragged.ofBytes name).quoted ++ "." ++ suggestion near)
  | .settings fault => .ofText fault.message
  | .noArguments => .ofText "Missing argument 'ARGS...'."
  | .unknownFormat given =>
    .ofText ("Invalid value for '--format' / '-f': " ++ (Ragged.ofBytes given).quoted ++
      " is not one of " ++ formatChoices ++ ".")
  | .extraArguments words =>
    Ragged.ofText ("Got unexpected extra argument" ++ (if words.length = 1 then "" else "s") ++
      " (") ++ (Ragged.ofText " ").intercalate (words.map Ragged.ofBytes) ++ Ragged.ofText ")"
  | .notHexadecimal position =>
    .ofText ("Invalid value for ARGS: not a hex string: " ++
      "non-hexadecimal number found in fromhex() arg at position " ++ Decimal.natText position)

end UsageError

end StreamRequest.CommandLine
