/-
Text as any row of code points, with surrogates among them.

The numbers from U+D800 to U+DFFF are no characters and have no bytes, but a
text that a caller hands over may hold them. Such a text cannot be written, and
the failure tells where its first surrogates stand. Every other text is a
string.
-/
import StreamRequest.Text.Decimal
import StreamRequest.Text.Quoted
import StreamRequest.Text.Utf8

namespace StreamRequest

/-- A number that may stand in a text. -/
inductive CodePoint where
  | char (c : Char)
  /-- The number that is `index` above U+D800. -/
  | surrogate (index : Fin 0x800)
  deriving DecidableEq, Repr

namespace CodePoint

/-- The character that a code point is, unless it is a surrogate. -/
def char? : CodePoint → Option Char
  | .char c => some c
  | .surrogate _ => none

/-- The number of a surrogate. -/
def surrogateNumber (index : Fin 0x800) : Nat :=
  0xD800 + index.val

end CodePoint

/-- Text as a caller may hand it over. -/
abbrev CodeText := List CodePoint

/-- Surrogates that stand together: the first of them, its position, and how many they are. -/
structure Surrogates where
  first : Fin 0x800
  start : Nat
  length : Nat
  deriving DecidableEq, Repr

namespace Surrogates

/-- What is said of surrogates in a text that is to be written. -/
def message (run : Surrogates) : String :=
  "'utf-8' codec can't encode character" ++
    (if run.length = 1 then
      " '" ++ .ofList (Quoted.escapeNumber (CodePoint.surrogateNumber run.first)) ++
        "' in position " ++ Decimal.natText run.start
    else
      "s in position " ++ Decimal.natText run.start ++ "-" ++
        Decimal.natText (run.start + run.length - 1)) ++
    ": surrogates not allowed"

/-- The name of the class of the failure. -/
def className : String := "UnicodeEncodeError"

end Surrogates

namespace CodeText

/-- A string as a text without surrogates. -/
def ofText (text : String) : CodeText :=
  text.toList.map .char

instance : Coe String CodeText := ⟨ofText⟩

/-- The characters of a text, without its surrogates. -/
def chars (text : CodeText) : List Char :=
  text.filterMap CodePoint.char?

/-- The first surrogates of a text whose head stands at `position` of the whole. -/
def surrogatesFrom (position : Nat) : CodeText → Option Surrogates
  | [] => none
  | .char _ :: rest => surrogatesFrom (position + 1) rest
  | .surrogate index :: rest =>
    some ⟨index, position, (rest.takeWhile fun point => point.char?.isNone).length + 1⟩

/-- The string that a text is, or its first surrogates. -/
def toText (text : CodeText) : Except Surrogates String :=
  match surrogatesFrom 0 text with
  | some run => .error run
  | none => .ok (.ofList text.chars)

/-- The bytes of a text, or its first surrogates. -/
def encode (text : CodeText) : Except Surrogates Bytes :=
  (toText text).map Utf8.ofText

end CodeText

end StreamRequest
