/-
From a value of the wire to a command.

A request is an array of bulk strings, the arguments. The first argument is
the name of the command, in any case; the number of the others is checked
before any of them is read. Whatever the value is, it yields a command or a
`RequestError`, and nothing else.
-/
import StreamRequest.Command.Describe
import StreamRequest.RequestError
import StreamRequest.Text.Casing

namespace StreamRequest.Request

/-! ## Arguments -/

/-- The bytes of bulk strings, the first of which is the argument number `index`. -/
def bulkItems (index : Nat) : List Value → Except ShapeError (List Bytes)
  | [] => .ok []
  | .bulk data :: rest => (bulkItems (index + 1) rest).map (data :: ·)
  | .nullBulk :: _ => .error ⟨.nullBulkString, some index⟩
  | _ :: _ => .error ⟨.notABulkString, some index⟩

/-- The arguments of a request, an array of bulk strings. -/
def arguments : Value → Except ShapeError (List Bytes)
  | .array items => bulkItems 0 items
  | .nullArray => .error ⟨.nullArray, none⟩
  | _ => .error ⟨.notAnArray, none⟩

/-! ## Parts of a command -/

/-- The text of an argument. -/
def text (data : Bytes) : Except CommandError String :=
  (Utf8.toText data).mapError .notText

/-- The number of digits up to which an offset is read. -/
def offsetDigits : Nat := 4300

/-- The offset that a text denotes: an optional sign and digits, no less than the tail and no
more than the greatest offset. -/
def offset (text : String) : Except CommandError Int :=
  match Decimal.readInt? offsetDigits text.toList with
  | some i => if Command.tail ≤ i ∧ i ≤ Command.maxOffset then .ok i else .error (.badOffset text)
  | none => .error (.badOffset text)

/-- The stream and the offset of a target. The first colon separates them, and without one the
offset is the tail. Of two parts that are not text, the stream is reported. -/
def target (data : Bytes) : Except CommandError (String × Int) :=
  match data.splitFirst Command.separator with
  | (streamPart, none) => do
    let stream ← text streamPart
    return (stream, Command.tail)
  | (streamPart, some offsetPart) => do
    let stream ← text streamPart
    let spelled ← text offsetPart
    let position ← offset spelled
    return (stream, position)

/-! ## Commands -/

/-- The number of arguments that a refusal by their number calls for. A subscription takes one
and is refused in the same words. -/
def expectedArguments : Int := 2

/-- The publication of two operands, of which the first is text. -/
def publication : List Bytes → Except CommandError Command
  | [stream, event] => do
    let name ← text stream
    return .publish name event
  | _ => .error (.argumentCount expectedArguments)

/-- The subscription to a target, its one operand. -/
def subscription : List Bytes → Except CommandError Command
  | [data] => do
    let (stream, position) ← target data
    return .subscribe stream position
  | _ => .error (.argumentCount expectedArguments)

/-- The command that arguments ask for. -/
def command : List Bytes → Except CommandError Command
  | [] => .error .missingName
  | first :: rest => do
    let called ← text first
    let name := Casing.lower called
    if name = Command.publishName then publication rest
    else if name = Command.subscribeName then subscription rest
    else .error (.unknownCommand (some name))

/-- The command that a value asks for. -/
def decode (value : Value) : Except RequestError Command := do
  let args ← (arguments value).mapError .shape
  (command args).mapError .command

/-! ## Log lines -/

/-- What a log at debug level says of a request that was read. -/
def acceptedLine (command : Command) : String :=
  "DEBUG: Decoded request: " ++ command.describe

/-- What a log at debug level says of a request that was refused. -/
def rejectedLine (error : RequestError) : String :=
  "DEBUG: Request rejected: " ++ error.className

/-- The lines that reading a value leaves in a log at debug level: one for a command. -/
def decodeLog (value : Value) : List String :=
  match decode value with
  | .ok command => [acceptedLine command]
  | .error _ => []

end StreamRequest.Request
