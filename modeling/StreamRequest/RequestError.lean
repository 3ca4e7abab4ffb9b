/-
Why a request is refused, and the reply that tells the client.

There are two families: the value was not an array of bulk strings, or its
arguments were no command. Both are answered by an error on one line.

The name and the offset of an error are strings, as they are in what was read:
errors put together by hand around a text with surrogates are left out. Of what
is wrong with bytes that are no text an error keeps the defect and its place,
and neither the bytes themselves nor the name of their encoding.
-/
import StreamRequest.Text.Decimal
import StreamRequest.Text.Quoted
import StreamRequest.Text.Utf8
import StreamRequest.Value

namespace StreamRequest

/-! ## Values of the wrong shape -/

/-- How a value fails to be an array of bulk strings. -/
inductive Shape where
  | notAnArray
  | nullArray
  | notABulkString
  | nullBulkString
  deriving DecidableEq, Repr

/-- What is said of a shape. -/
def Shape.words : Shape → String
  | .notAnArray => "not an array"
  | .nullArray => "null array"
  | .notABulkString => "not a bulk string"
  | .nullBulkString => "null bulk string"

/-- A value of the wrong shape, and the argument at which it is wrong. -/
structure ShapeError where
  shape : Shape
  index : Option Int
  deriving DecidableEq, Repr

/-- What is said of a value of the wrong shape. -/
def ShapeError.message (fault : ShapeError) : String :=
  "invalid request: " ++ fault.shape.words ++
    match fault.index with
    | some index => " at argument " ++ Decimal.intText index
    | none => ""

/-! ## Arguments that are no command -/

/-- Why arguments are no command. -/
inductive CommandError where
  /-- The name, in lower case, is not that of a command. -/
  | unknownCommand (name : Option String)
  /-- There are no arguments at all. -/
  | missingName
  /-- The command takes another number of arguments. -/
  | argumentCount (expected : Int)
  /-- An argument that must be text is not UTF-8. -/
  | notText (fault : Utf8.Fault)
  /-- The text after the colon of a target is no offset. -/
  | badOffset (text : String)
  deriving DecidableEq, Repr

/-- What is said of arguments that are no command. Of a client only an offset is repeated, in quotation
marks. -/
def CommandError.message : CommandError → String
  | .unknownCommand _ => "command not found"
  | .missingName => "missing command name"
  | .argumentCount expected =>
    "invalid number of arguments (expected " ++ Decimal.intText expected ++ ")"
  | .notText fault =>
    "invalid utf8 string: " ++ fault.defect.reason ++ " at byte " ++ Decimal.natText fault.start
  | .badOffset text => "invalid offset: " ++ Quoted.quote text

/-- The name of the class of the error, as a log shows it. -/
def CommandError.className : CommandError → String
  | .unknownCommand _ => "CommandNotFoundError"
  | .missingName => "MissingCommandNameError"
  | .argumentCount _ => "InvalidNumberOfArgumentsError"
  | .notText _ => "InvalidUtf8StringError"
  | .badOffset _ => "InvalidOffsetError"

/-! ## Both families -/

/-- Why a request is refused. -/
inductive RequestError where
  | shape (fault : ShapeError)
  | command (fault : CommandError)
  deriving DecidableEq, Repr

namespace RequestError

/-- What is said of a request that is refused. -/
def message : RequestError → String
  | .shape fault => fault.message
  | .command fault => fault.message

/-- The name of the class of the error, as a log shows it. -/
def className : RequestError → String
  | .shape _ => "DecodeError"
  | .command fault => fault.className

/-- The text of the reply, behind its prefix. -/
def replyText (error : RequestError) : String :=
  "ERR " ++ error.message

/-- The reply to a request that is refused. -/
def reply (error : RequestError) : Value :=
  .error error.replyText

end RequestError

end StreamRequest
