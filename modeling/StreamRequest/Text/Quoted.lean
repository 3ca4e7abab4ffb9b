/-
Quoted text: any text as one line of printable characters between quotation
marks.

The mark is an apostrophe, or a double quotation mark where that saves
escaping. Within the marks stand the printable characters themselves; the
mark, the backslash and everything that is not printable are escaped by a
backslash.
-/
import StreamRequest.Text.Hexadecimal
import StreamRequest.Text.Printable

namespace StreamRequest.Quoted

open Printable

/-- The mark around a text: a double one if it holds apostrophes and no double marks. -/
def mark (text : List Char) : Char :=
  if '\x27' ∈ text ∧ '"' ∉ text then '"' else '\x27'

/-- The number of a character that is not printable, in two, four or eight digits. -/
def escapeNumber (n : Nat) : List Char :=
  if n < 0x100 then '\\' :: 'x' :: Hexadecimal.fixed 2 n
  else if n < 0x10000 then '\\' :: 'u' :: Hexadecimal.fixed 4 n
  else '\\' :: 'U' :: Hexadecimal.fixed 8 n

/-- One character as it stands between two marks `m`. -/
def escapeChar (m c : Char) : List Char :=
  if c = m ∨ c = '\\' then ['\\', c]
  else if c = '\t' then ['\\', 't']
  else if c = '\n' then ['\\', 'n']
  else if c = '\r' then ['\\', 'r']
  else if isPrintable c then [c]
  else escapeNumber c.toNat

/-- The characters of a quoted text. -/
def quoteChars (text : List Char) : List Char :=
  mark text :: text.flatMap (escapeChar (mark text)) ++ [mark text]

/-- A text in quotation marks. -/
def quote (text : String) : String :=
  .ofList (quoteChars text.toList)

end StreamRequest.Quoted
