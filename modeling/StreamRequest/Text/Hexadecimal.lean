/-
Bytes spelled as hexadecimal digits, two for each, and the fixed-width
hexadecimal numbers of escape sequences.

A spelling may hold white space before, between and after the pairs but not
within one, and its digits may be of either case. Where a spelling is broken
the reader answers with the position of the first byte that cannot stand
there; a byte beyond ASCII is found before anything else.
-/
import StreamRequest.Bytes

namespace StreamRequest.Hexadecimal

/-! ## Writing -/

/-- The lowercase digit of a value below sixteen. -/
def digit (value : Nat) : Char :=
  Nat.digitChar (value % 16)

/-- The last `width` lowercase digits of a number. -/
def fixed : (width : Nat) → Nat → List Char
  | 0, _ => []
  | width + 1, n => fixed width (n / 16) ++ [digit n]

/-! ## Reading -/

/-- The value of a digit of either case. -/
def value? (b : UInt8) : Option Nat :=
  let n := b.toNat
  if 0x30 ≤ n ∧ n ≤ 0x39 then some (n - 0x30)
  else if 0x41 ≤ n ∧ n ≤ 0x46 then some (n - 0x41 + 10)
  else if 0x61 ≤ n ∧ n ≤ 0x66 then some (n - 0x61 + 10)
  else none

/-- Space, tab, line feed, vertical tab, form feed and carriage return. -/
def isBlank (b : UInt8) : Bool :=
  b.toNat = 0x20 || 0x09 ≤ b.toNat && b.toNat ≤ 0x0D

/-- The byte of two digits. -/
def pair (high low : Nat) : UInt8 :=
  .ofNat (high * 16 + low)

/-- The bytes that an ASCII spelling denotes from `position` on, or the position where it breaks.
`high` is the value of the first digit of a pair if one has just been read. -/
def readFrom (high : Option Nat) (position : Nat) : Bytes → Except Nat Bytes
  | [] =>
    match high with
    | none => .ok []
    | some _ => .error position
  | b :: rest =>
    match high with
    | none =>
      if isBlank b then readFrom none (position + 1) rest
      else
        match value? b with
        | none => .error position
        | some value => readFrom (some value) (position + 1) rest
    | some value =>
      match value? b with
      | none => .error position
      | some low => (readFrom none (position + 1) rest).map (pair value low :: ·)

/-- The bytes that a spelling denotes, or the position where it breaks. -/
def read (spelling : Bytes) : Except Nat Bytes :=
  match spelling.findIdx? fun b => 0x80 ≤ b.toNat with
  | some position => .error position
  | none => readFrom none 0 spelling

/-- The bytes of several spellings, or the position at which the first broken one breaks. -/
def readAll : List Bytes → Except Nat (List Bytes)
  | [] => .ok []
  | spelling :: rest =>
    match read spelling with
    | .error position => .error position
    | .ok data => (readAll rest).map (data :: ·)

end StreamRequest.Hexadecimal
