/-
Commands as a caller puts them together, and the requests that ask for them.

A subscription names its stream and its position in one argument, the target,
with a colon between them; at the tail of the stream the position is left out.
The stream of a draft may hold surrogates, and then it has no bytes and the
draft no request. Drafts whose stream is a string are the commands.
-/
import StreamRequest.Command
import StreamRequest.Value

namespace StreamRequest

/-- A command whose stream is any text. -/
inductive Draft where
  | publish (stream : CodeText) (event : Bytes)
  | subscribe (stream : CodeText) (offset : Int)
  deriving DecidableEq, Repr

/-- A command as the draft it is. -/
def Command.draft : Command → Draft
  | .publish stream event => .publish stream event
  | .subscribe stream offset => .subscribe stream offset

namespace Draft

/-- The name of the command that a draft is of. -/
def name : Draft → String
  | .publish .. => Command.publishName
  | .subscribe .. => Command.subscribeName

/-- The stream that a draft names. -/
def stream : Draft → CodeText
  | .publish stream _ => stream
  | .subscribe stream _ => stream

/-- What the classes of commands allow. The stream of a publication may be any text; that of a
subscription is searched for a colon, and no text with surrogates can be searched. -/
def Valid : Draft → Prop
  | .publish .. => True
  | .subscribe stream offset =>
    (∀ index, .surrogate index ∉ stream) ∧ .char ':' ∉ stream ∧
      Command.tail ≤ offset ∧ offset ≤ Command.maxOffset

instance : DecidablePred Valid
  | .publish .. => .isTrue trivial
  | .subscribe .. => inferInstanceAs (Decidable (_ ∧ _))

/-- The command that a draft is, or the first surrogates of its stream. -/
def command : Draft → Except Surrogates Command
  | .publish stream event => do
    let text ← stream.toText
    return .publish text event
  | .subscribe stream offset => do
    let text ← stream.toText
    return .subscribe text offset

/-- The stream and the offset of a subscription as one text. -/
def target (stream : CodeText) (offset : Int) : CodeText :=
  if offset = Command.tail then stream
  else stream ++ CodeText.ofText (":" ++ Decimal.intText offset)

/-- The arguments of the request that asks for a command. -/
def arguments : Draft → Except Surrogates (List Bytes)
  | .publish stream event => do
    let named ← stream.encode
    return [Utf8.ofText Command.publishName, named, event]
  | .subscribe stream offset => do
    let aimed ← (target stream offset).encode
    return [Utf8.ofText Command.subscribeName, aimed]

/-- The request that asks for a command. -/
def request (draft : Draft) : Except Surrogates Value :=
  draft.arguments.map Value.request

end Draft

end StreamRequest
