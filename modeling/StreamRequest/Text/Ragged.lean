/-
Text with stray bytes, as words from outside may be that are not UTF-8.

Such a text is changed as any other is, and a stray byte is like no character.
It has no bytes as text. Where it is shown all the same, a stray byte stands as
the number of a low surrogate in an escape.
-/
import StreamRequest.Text.Casing
import StreamRequest.Text.CodeText
import StreamRequest.Text.ControlSequence

namespace StreamRequest

/-- Text in which bytes may stand that belong to no character. -/
abbrev Ragged := List Utf8.Piece

namespace Ragged

open Utf8 (Piece)

/-- A text without stray bytes. -/
def ofText (text : String) : Ragged :=
  text.toList.map .char

/-- Bytes as text where they are well formed. -/
def ofBytes (data : Bytes) : Ragged :=
  Utf8.pieces data

/-- The characters of a text, without its stray bytes. -/
def chars (text : Ragged) : List Char :=
  text.filterMap Piece.char?

/-- The surrogate that stands for a byte which belongs to no character: one of those from U+DC00
on. -/
def straySurrogate (b : UInt8) : Fin 0x800 :=
  ⟨0x400 + b.toNat, by have := b.toNat_lt; omega⟩

/-- The number that stands for a byte which belongs to no character. -/
def strayNumber (b : UInt8) : Nat :=
  CodePoint.surrogateNumber (straySurrogate b)

/-! ## Changing -/

/-- The text in upper case. A stray byte has none. -/
def upper (text : Ragged) : Ragged :=
  text.flatMap fun
    | .char c => (Casing.upperChar c).map .char
    | .stray b => [.stray b]

/-- The text without its control sequences. A stray byte belongs to none. -/
def withoutSequences (text : Ragged) : Ragged :=
  ControlSequence.stripFrom Piece.char? 0 text

/-! ## Showing -/

/-- The text with its stray bytes escaped, and nothing else. -/
def escaped (text : Ragged) : String :=
  .ofList <| text.flatMap fun
    | .char c => [c]
    | .stray b => Quoted.escapeNumber (strayNumber b)

/-- The text in quotation marks, with its stray bytes escaped. -/
def quoted (text : Ragged) : String :=
  let m := Quoted.mark text.chars
  .ofList <| m :: text.flatMap (fun
    | .char c => Quoted.escapeChar m c
    | .stray b => Quoted.escapeNumber (strayNumber b)) ++ [m]

/-! ## Writing -/

/-- Stray bytes that stand together: the first of them, its position, and how many they are. -/
structure StrayRun where
  first : UInt8
  start : Nat
  length : Nat
  deriving DecidableEq, Repr

/-- What is said of stray bytes in a text that is to be written, as of the surrogates that stand
for them. -/
def StrayRun.message (run : StrayRun) : String :=
  Surrogates.message ⟨straySurrogate run.first, run.start, run.length⟩

/-- The first stray bytes of a text. -/
def firstStrays? (text : Ragged) : Option StrayRun :=
  let before := text.takeWhile fun piece => piece.char?.isSome
  match text.drop before.length with
  | .stray b :: rest =>
    some ⟨b, before.length, (rest.takeWhile fun piece => piece.char?.isNone).length + 1⟩
  | _ => none

/-- The string that a text is, or its first stray bytes. -/
def toText (text : Ragged) : Except StrayRun String :=
  match text.firstStrays? with
  | some strays => .error strays
  | none => .ok (.ofList text.chars)

end Ragged

end StreamRequest
