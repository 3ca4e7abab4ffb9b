/-
What the commands of the command line print: a command or the settings, as a
table or as JSON.
-/
import StreamRequest.Command.Json
import StreamRequest.Payload
import StreamRequest.Settings

namespace StreamRequest.CommandLine

/-- The most characters of an event in a table. -/
def eventWidth : Int := 80

/-- The number of bytes of an event that a table shows. -/
def previewBytes : Nat := 64

/-- An event on one line of a table: what is shown of its first bytes, cut to the width. -/
def eventColumn (event : Bytes) : String :=
  Cut.shorten eventWidth (Payload.format (some previewBytes) event)

/-- The lines of a table, a field on each, with the stream as it is. -/
def tableLines (command : Command) : List String :=
  ("Command:  " ++ command.name) ::
  match command with
  | .publish stream event =>
    ["Stream:   " ++ stream,
     "Event:    " ++ eventColumn event,
     "Size:     " ++ Decimal.natText event.length ++ " bytes"]
  | .subscribe stream offset =>
    ["Stream:   " ++ stream,
     "From:     " ++ if offset = Command.tail then "tail" else Decimal.intText offset]

/-- What is printed of a command, print by print. -/
def showCommand (command : Command) : OutputFormat → List String
  | .table => tableLines command
  | .json => [command.indentedJson]

/-- The lines of the table of settings. -/
def settingsLines (settings : Settings) : List Ragged :=
  [.ofText "Meilies Configuration",
   .ofText (.ofList (List.replicate 40 '-')),
   .ofText "Log level:        " ++ settings.levelName,
   .ofText ("Output format:    " ++ settings.format.name)]

/-- The settings as an object of JSON. -/
def settingsJson (settings : Settings) : String :=
  Json.indented .ascii
    [("log_level", .ragged settings.levelName), ("output_format", .text settings.format.name)]

end StreamRequest.CommandLine
