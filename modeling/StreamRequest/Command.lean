/-
The commands of the event streams: to publish an event to a stream, or to
subscribe to a stream from some position on.

A command is what a request is read as, so its stream is a string. What a
caller may put together beside that is a `Draft`, whose stream may have
surrogates. Descriptions, tables and JSON are of commands: what is shown of a
stream with surrogates is left out.
-/
import StreamRequest.Bytes

namespace StreamRequest

/-- What a client asks for. -/
inductive Command where
  /-- Append an event, which may be any bytes, to a stream. -/
  | publish (stream : String) (event : Bytes)
  /-- Receive the events of a stream from an offset on. -/
  | subscribe (stream : String) (offset : Int)
  deriving DecidableEq, Repr

namespace Command

/-- The offset of the current end of a stream. -/
def tail : Int := -1

/-- The greatest integer of 64 bits. -/
def maxOffset : Int := 0x7FFFFFFFFFFFFFFF

/-- The byte between the stream and the offset of a target. -/
def separator : UInt8 := 0x3A

/-- The name of a publication. -/
def publishName : String := "publish"

/-- The name of a subscription. -/
def subscribeName : String := "subscribe"

/-- The name that a request for a command begins with. -/
def name : Command → String
  | .publish .. => publishName
  | .subscribe .. => subscribeName

/-- What the classes of commands allow: a stream that a subscription can name has no colon, and an
offset is the tail or a position. A publication may have any stream and any event. -/
def Valid : Command → Prop
  | .publish .. => True
  | .subscribe stream offset => ':' ∉ stream.toList ∧ tail ≤ offset ∧ offset ≤ maxOffset

instance : DecidablePred Valid
  | .publish .. => .isTrue trivial
  | .subscribe .. => inferInstanceAs (Decidable (_ ∧ _))

end Command

end StreamRequest
