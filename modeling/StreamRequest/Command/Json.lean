/-
A command as a JSON object: its name, its stream, and its event in base 64 or
its offset.
-/
import StreamRequest.Command
import StreamRequest.Text.Base64
import StreamRequest.Text.Json

namespace StreamRequest.Command

/-- The key of the offset of a subscription. -/
inductive OffsetKey where
  /-- The name that the offset has for clients. -/
  | wire
  /-- The name of the field itself. -/
  | own
  deriving DecidableEq, Repr

/-- The key itself. -/
def OffsetKey.text : OffsetKey → String
  | .wire => "from"
  | .own => "from_"

/-- What the object of a command has in it, its name first. -/
def members (key : OffsetKey) : Command → Json.Members
  | .publish stream event =>
    [("cmd", .text publishName), ("stream", .text stream), ("event", .text (Base64.text event))]
  | .subscribe stream offset =>
    [("cmd", .text subscribeName), ("stream", .text stream), (key.text, .integer offset)]

/-- The object on one line. -/
def json (key : OffsetKey) (command : Command) : String :=
  Json.compact .unicode (command.members key)

/-- The object on a line for each member. -/
def indentedJson (command : Command) : String :=
  Json.indented .unicode (command.members .wire)

end StreamRequest.Command
