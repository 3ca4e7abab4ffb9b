/-
The way from a value to a command and to the log line about it, with every
failure kept that a single step on it could end in.

A refusal is what a client is told of. The other failures are those of the
parts that the steps are made of: operands taken out of a list that has too
few, the digits of a number that are too many to be converted, fields that the
class of a command does not take, bytes that are shown as text without being
text. The steps look before they leap, but each of them looks at something
other than what the next part checks.
-/
import StreamRequest.Proofs.Text.Spelling
import StreamRequest.Record
import StreamRequest.Request

namespace StreamRequest.Attempt

/-- How a step can fail. -/
inductive Failure where
  /-- The request is refused. -/
  | refused (error : RequestError)
  /-- Operands were taken out of a list that has not that many. -/
  | operands
  /-- A number has more digits than are converted. -/
  | conversion (digits : Nat)
  /-- Fields do not pass the checks of a class. -/
  | fields (faults : List (String × FieldFault))
  /-- A command was made of a text with surrogates. -/
  | surrogates (run : Surrogates)
  /-- Bytes that were to be shown as text are none. -/
  | preview (fault : Utf8.Fault)
  deriving DecidableEq

/-- Arguments are refused. -/
def refuse (error : CommandError) : Except Failure α :=
  .error (.refused (.command error))

/-! ## Parts -/

/-- The text of an argument. -/
def text (data : Bytes) : Except Failure String :=
  match Utf8.toText data with
  | .ok t => .ok t
  | .error fault => refuse (.notText fault)

/-- The integer of a spelling, unless it has too many digits. -/
def convert (spelling : Decimal.Spelling) : Except Failure Int :=
  if spelling.digits.length ≤ Request.offsetDigits then .ok spelling.integer
  else .error (.conversion spelling.digits.length)

/-- The offset that a text denotes. A spelling that cannot be converted is refused like a text that
is no spelling. -/
def offset (spelled : String) : Except Failure Int :=
  match Decimal.Spelling.ofText? spelled.toList with
  | none => refuse (.badOffset spelled)
  | some spelling => do
    let i ← tryCatch (convert spelling) fun
      | .conversion _ => refuse (.badOffset spelled)
      | failure => .error failure
    if i < Command.tail ∨ Command.maxOffset < i then refuse (.badOffset spelled) else .ok i

/-- The stream and the offset of a target. -/
def target (data : Bytes) : Except Failure (String × Int) :=
  match data.splitFirst Command.separator with
  | (_, none) => do
    let stream ← text data
    return (stream, Command.tail)
  | (streamPart, some offsetPart) => do
    let stream ← text streamPart
    let spelled ← text offsetPart
    let i ← offset spelled
    return (stream, i)

/-! ## Commands -/

/-- The first of the operands. -/
def takeOne : List Bytes → Except Failure Bytes
  | data :: _ => .ok data
  | [] => .error .operands

/-- The operands, which must be two. -/
def takeTwo : List Bytes → Except Failure (Bytes × Bytes)
  | [a, b] => .ok (a, b)
  | _ => .error .operands

/-- The fields that a publication is made of. -/
def publicationRecord (stream : String) (event : Bytes) : Record :=
  [("stream", .text stream), ("event", .bytes event)]

/-- The fields that a subscription is made of. -/
def subscriptionRecord (stream : String) (i : Int) : Record :=
  [("stream", .text stream), ("from_", .integer i)]

/-- A command made of fields. -/
def built (checked : Checked Draft) : Except Failure Command := do
  let draft ← checked.mapError .fields
  draft.command.mapError .surrogates

/-- A publication, with the number of its operands looked at first. -/
def publication (rest : List Bytes) : Except Failure Command :=
  if rest.length ≠ 2 then refuse (.argumentCount Request.expectedArguments)
  else do
    let (streamPart, event) ← takeTwo rest
    let stream ← text streamPart
    built (publicationRecord stream event).publication

/-- A subscription, with the number of its operands looked at first. -/
def subscription (rest : List Bytes) : Except Failure Command :=
  if rest.length ≠ 1 then refuse (.argumentCount Request.expectedArguments)
  else do
    let data ← takeOne rest
    let (stream, i) ← target data
    built (subscriptionRecord stream i).subscription

/-- The command that arguments ask for. -/
def command : List Bytes → Except Failure Command
  | [] => refuse .missingName
  | first :: rest => do
    let called ← text first
    let name := Casing.lower called
    if name = Command.publishName then publication rest
    else if name = Command.subscribeName then subscription rest
    else refuse (.unknownCommand (some name))

/-! ## The log line -/

/-- The view of what a cut has left. If the cut may have split a character, the text before that
character is read once more. -/
def leftover (data : Bytes) : Except Failure Payload.View :=
  match Utf8.toText data with
  | .ok t => .ok (.text (t ++ Cut.ellipsis))
  | .error fault =>
    if fault.defect = .unexpectedEnd then
      match Utf8.toText (data.take fault.start) with
      | .ok t => .ok (.text (t ++ Cut.ellipsis))
      | .error again => .error (.preview again)
    else .ok (.bytes data)

/-- The view of a payload, cut if it has more bytes than the limit. -/
def view (most : Nat) (data : Bytes) : Except Failure Payload.View :=
  if most < data.length then leftover (data.take most) else .ok (Payload.whole data)

/-- The fields of a command as a log line shows them. -/
def fields : Command → Except Failure (List (String × String))
  | .publish stream event => do
    let shown ← view Command.shownBytes event
    return [("stream", Quoted.quote stream), ("event", shown.line)] ++
      if Command.shownBytes < event.length then [("size", Decimal.natText event.length)] else []
  | .subscribe stream i => .ok [("stream", Quoted.quote stream), ("from", Decimal.intText i)]

/-- A command as a log line shows it. -/
def describe (c : Command) : Except Failure String := do
  let shown ← fields c
  return c.className ++ "(" ++
    ", ".intercalate (shown.map fun (name, value) => name ++ "=" ++ value) ++ ")"

/-! ## Whole requests -/

/-- The command that a value asks for and the lines about it in a log, which at debug level has one
for each command. -/
def request (debug : Bool) (value : Value) : Except Failure (Command × List String) := do
  let args ← (Request.arguments value).mapError fun fault => .refused (.shape fault)
  let c ← command args
  if debug then do
    let line ← describe c
    return (c, ["DEBUG: Decoded request: " ++ line])
  else return (c, [])

end StreamRequest.Attempt
