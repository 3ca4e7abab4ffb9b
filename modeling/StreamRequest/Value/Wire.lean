/-
The wire form of a value.

Statuses, errors and integers are a marker and a line; bulk strings and arrays
have their length on the line, the nulls a length of -1. The text of a status
or an error may not break the line, and it must have bytes: a value whose text
does not has no wire form, and no more has an array with such a value anywhere
in it.
-/
import StreamRequest.Value

namespace StreamRequest.Value

/-- Why a value has no wire form. -/
inductive Unwritable where
  /-- A value of the kind has a text of more than one line. -/
  | lineBreak (kind : Kind)
  /-- A text has surrogates, which have no bytes. -/
  | surrogates (run : Surrogates)
  deriving DecidableEq, Repr

/-- What is said of a value without a wire form. -/
def Unwritable.message : Unwritable → String
  | .lineBreak kind => "RESP " ++ kind.label ++ " must not contain CR or LF"
  | .surrogates run => run.message

/-- The name of the class of the failure. -/
def Unwritable.className : Unwritable → String
  | .lineBreak _ => "ValueError"
  | .surrogates _ => Surrogates.className

/-- The bytes that end a line. -/
def lineEnd : Bytes := [0x0D, 0x0A]

/-- One line behind the marker of a kind. -/
def line (kind : Kind) (text : List Char) : Bytes :=
  Utf8.encode (kind.marker :: text) ++ lineEnd

/-- The line of a text. It must not hold a line break itself, which is looked at first, nor
surrogates. -/
def textLine (kind : Kind) (text : CodeText) : Except Unwritable Bytes :=
  if .char '\r' ∈ text ∨ .char '\n' ∈ text then .error (.lineBreak kind)
  else
    match text.toText with
    | .ok spelled => .ok (line kind spelled.toList)
    | .error run => .error (.surrogates run)

mutual

/-- The bytes of a value, or why the first value in it that has none has none. -/
def encode : Value → Except Unwritable Bytes
  | .simple text => textLine .simple text
  | .error text => textLine .error text
  | .integer number => .ok (line .integer (Decimal.ofInt number.toInt))
  | .bulk data => .ok (line .bulk (Decimal.ofNat data.length) ++ data ++ lineEnd)
  | .nullBulk => .ok (line .bulk (Decimal.ofInt (-1)))
  | .array items =>
    match encodeAll items with
    | .ok data => .ok (line .array (Decimal.ofNat items.length) ++ data)
    | .error fault => .error fault
  | .nullArray => .ok (line .array (Decimal.ofInt (-1)))

/-- The bytes of values one after the other. -/
def encodeAll : List Value → Except Unwritable Bytes
  | [] => .ok []
  | item :: rest =>
    match encode item with
    | .ok data =>
      match encodeAll rest with
      | .ok more => .ok (data ++ more)
      | .error fault => .error fault
    | .error fault => .error fault

end

end StreamRequest.Value
