/-
Bytes as one line of printable ASCII, and back.

Printable bytes stand for themselves. The backslash is doubled, and every
other byte is an escape of a backslash and a letter or two hexadecimal digits.
An apostrophe is escaped only in data that also hold a double quotation mark.
-/
import StreamRequest.Text.Hexadecimal

namespace StreamRequest.EscapedBytes

def apostrophe : UInt8 := 0x27

def quotationMark : UInt8 := 0x22

def backslash : UInt8 := 0x5C

/-- Whether apostrophes are escaped in the data. -/
def escapesApostrophe (data : Bytes) : Bool :=
  data.contains apostrophe && data.contains quotationMark

/-- One byte, with or without an escape before an apostrophe. -/
def escapeByte (escaping : Bool) (b : UInt8) : List Char :=
  if b = backslash then ['\\', '\\']
  else if b = apostrophe ∧ escaping then ['\\', '\x27']
  else if b = 0x09 then ['\\', 't']
  else if b = 0x0A then ['\\', 'n']
  else if b = 0x0D then ['\\', 'r']
  else if 0x20 ≤ b.toNat ∧ b.toNat < 0x7F then [.ofNat b.toNat]
  else '\\' :: 'x' :: Hexadecimal.fixed 2 b.toNat

/-- The characters of a line that shows the data. -/
def escape (data : Bytes) : List Char :=
  data.flatMap (escapeByte (escapesApostrophe data))

/-- The bytes as text of printable ASCII. -/
def text (data : Bytes) : String :=
  .ofList (escape data)

/-- The byte that a plain character or a hexadecimal digit stands for. -/
def byteOf (c : Char) : UInt8 :=
  .ofNat c.toNat

/-- Undoes the escapes of a line; a broken escape has no meaning. -/
def unescape : List Char → Option Bytes
  | [] => some []
  | '\\' :: 'x' :: a :: b :: rest =>
    match Hexadecimal.value? (byteOf a), Hexadecimal.value? (byteOf b) with
    | some high, some low => (unescape rest).map (Hexadecimal.pair high low :: ·)
    | _, _ => none
  | '\\' :: 't' :: rest => (unescape rest).map (0x09 :: ·)
  | '\\' :: 'n' :: rest => (unescape rest).map (0x0A :: ·)
  | '\\' :: 'r' :: rest => (unescape rest).map (0x0D :: ·)
  | '\\' :: '\\' :: rest => (unescape rest).map (backslash :: ·)
  | '\\' :: '\x27' :: rest => (unescape rest).map (apostrophe :: ·)
  | c :: rest => if c = '\\' then none else (unescape rest).map (byteOf c :: ·)

end StreamRequest.EscapedBytes
