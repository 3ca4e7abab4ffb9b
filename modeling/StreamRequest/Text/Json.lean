/-
JSON objects of text and integers, as the program prints them: on one line
without spaces, or with a line for each member.

A string is written either in Unicode, where only the quotation mark, the
backslash and the controls below U+0020 are escaped, or in ASCII, where
everything but the printable ASCII characters is. A stray byte is escaped in
either.
-/
import StreamRequest.Text.Decimal
import StreamRequest.Text.Hexadecimal
import StreamRequest.Text.Ragged

namespace StreamRequest.Json

/-! ## Strings -/

/-- Which characters stand for themselves in a string. -/
inductive Charset where
  | unicode
  | ascii
  deriving DecidableEq, Repr

/-- Whether a character needs no escape, if it is neither a quotation mark nor a backslash. -/
def Charset.isPlain : Charset → Char → Bool
  | .unicode, c => 0x20 ≤ c.toNat
  | .ascii, c => 0x20 ≤ c.toNat && c.toNat < 0x7F

/-- The escape of one 16-bit unit. -/
def escapeUnit (n : Nat) : List Char :=
  '\\' :: 'u' :: Hexadecimal.fixed 4 n

/-- A character by its number: one 16-bit unit, or two from U+10000 on. -/
def escapeNumber (n : Nat) : List Char :=
  if n < 0x10000 then escapeUnit n
  else escapeUnit (0xD800 + (n - 0x10000) / 0x400) ++ escapeUnit (0xDC00 + (n - 0x10000) % 0x400)

/-- One character of a string. -/
def escapeChar (charset : Charset) (c : Char) : List Char :=
  if c = '"' ∨ c = '\\' then ['\\', c]
  else if c = '\x08' then ['\\', 'b']
  else if c = '\x0c' then ['\\', 'f']
  else if c = '\n' then ['\\', 'n']
  else if c = '\r' then ['\\', 'r']
  else if c = '\t' then ['\\', 't']
  else if charset.isPlain c then [c]
  else escapeNumber c.toNat

/-- The characters of a string in quotation marks. -/
def stringChars (charset : Charset) (text : List Char) : List Char :=
  '"' :: text.flatMap (escapeChar charset) ++ ['"']

/-- The characters of a string with stray bytes, in quotation marks. -/
def raggedChars (charset : Charset) (text : Ragged) : List Char :=
  '"' :: text.flatMap (fun
    | .char c => escapeChar charset c
    | .stray b => escapeUnit (Ragged.strayNumber b)) ++ ['"']

/-! ## Objects -/

/-- What a member of an object may be. -/
inductive Scalar where
  | text (text : String)
  | ragged (text : Ragged)
  | integer (value : Int)
  deriving DecidableEq, Repr

/-- The members of an object, in order. -/
abbrev Members := List (String × Scalar)

/-- A member as it is written. -/
def Scalar.chars (charset : Charset) : Scalar → List Char
  | .text t => stringChars charset t.toList
  | .ragged t => raggedChars charset t
  | .integer i => Decimal.ofInt i

/-- The characters of a member, with `gap` after the colon. -/
def memberChars (charset : Charset) (gap : List Char) (member : String × Scalar) : List Char :=
  stringChars charset member.1.toList ++ ':' :: gap ++ member.2.chars charset

/-- An object on one line, without spaces. -/
def compact (charset : Charset) (members : Members) : String :=
  .ofList <| '\x7b' :: [','].intercalate (members.map (memberChars charset [])) ++ ['\x7d']

/-- An object with a line for each member, indented by two spaces. -/
def indented (charset : Charset) (members : Members) : String :=
  .ofList <| '\x7b' :: '\n' ::
    [',', '\n'].intercalate (members.map fun m => ' ' :: ' ' :: memberChars charset [' '] m) ++
    ['\n', '\x7d']

end StreamRequest.Json
