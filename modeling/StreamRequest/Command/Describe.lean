/-
A command as one line for a log: its class and its fields, or the fields alone.

An event is shown up to a limit, and a longer one with its size behind it.
-/
import StreamRequest.Command
import StreamRequest.Payload

namespace StreamRequest.Command

/-- The number of bytes of an event that a description shows. -/
def shownBytes : Nat := 64

/-- The names of the fields with their values as they are shown. -/
def fields : Command → List (String × String)
  | .publish stream event =>
    [("stream", Quoted.quote stream), ("event", Payload.format (some shownBytes) event)] ++
      if shownBytes < event.length then [("size", Decimal.natText event.length)] else []
  | .subscribe stream offset =>
    [("stream", Quoted.quote stream), ("from", Decimal.intText offset)]

/-- The fields of a command, each with its name, and `separator` between them. -/
def listFields (separator : String) (command : Command) : String :=
  separator.intercalate (command.fields.map fun (name, value) => name ++ "=" ++ value)

/-- The name of the class of a command, which its description begins with. -/
def className : Command → String
  | .publish .. => "PublishCommand"
  | .subscribe .. => "SubscribeCommand"

/-- The fields of a command on one line. -/
def summary (command : Command) : String :=
  command.listFields " "

/-- The class and the fields of a command on one line. -/
def describe (command : Command) : String :=
  command.className ++ "(" ++ command.listFields ", " ++ ")"

end StreamRequest.Command
