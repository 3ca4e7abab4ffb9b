/-
UTF-8: text as bytes, and bytes as text where they are well formed.

`encode` writes each character in its one shortest form. `decode` reads
nothing else: it refuses overlong forms, surrogates and numbers beyond the
last character, and a `Fault` says where the first ill-formed sequence begins,
how far it is the start of something well formed, and what is wrong with it.
-/
import StreamRequest.Bytes

namespace StreamRequest.Utf8

/-! ## Writing -/

/-- The bytes of one character: one below U+0080, two below U+0800, three below U+10000, and
four from there on. -/
def encodeChar (c : Char) : Bytes :=
  let n := c.toNat
  if n < 0x80 then [.ofNat n]
  else if n < 0x800 then [.ofNat (0xC0 + n / 64), .ofNat (0x80 + n % 64)]
  else if n < 0x10000 then
    [.ofNat (0xE0 + n / 4096), .ofNat (0x80 + n / 64 % 64), .ofNat (0x80 + n % 64)]
  else
    [.ofNat (0xF0 + n / 262144), .ofNat (0x80 + n / 4096 % 64), .ofNat (0x80 + n / 64 % 64),
      .ofNat (0x80 + n % 64)]

/-- The bytes of a text, character by character. -/
def encode (text : List Char) : Bytes :=
  text.flatMap encodeChar

/-- The bytes of a string. -/
def ofText (text : String) : Bytes :=
  encode text.toList

/-! ## What can be wrong -/

/-- Why bytes are not UTF-8. -/
inductive Defect where
  /-- The byte begins no character. -/
  | invalidStart
  /-- The data end within a character. -/
  | unexpectedEnd
  /-- The byte does not continue the character that was begun. -/
  | invalidContinuation
  deriving DecidableEq, Repr

/-- What is said of a defect. -/
def Defect.reason : Defect → String
  | .invalidStart => "invalid start byte"
  | .unexpectedEnd => "unexpected end of data"
  | .invalidContinuation => "invalid continuation byte"

/-- The first ill-formed sequence: it begins at `start`, and `stop` is the first position
after it. The data that it stands in are not part of it. -/
structure Fault where
  defect : Defect
  start : Nat
  stop : Nat
  deriving DecidableEq, Repr

/-! ## Reading one character -/

/-- Whether a byte may follow within a character. -/
def isTrail (b : UInt8) : Bool :=
  0x80 ≤ b.toNat && b.toNat < 0xC0

/-- Whether `b` may come second in a character that begins with `lead`. After E0 and F0 the
small trailing bytes would be overlong, after ED the large ones surrogates, and after F4 beyond
the last character. -/
def isSecond (lead b : UInt8) : Bool :=
  isTrail b && (lead.toNat != 0xE0 || 0xA0 ≤ b.toNat) && (lead.toNat != 0xED || b.toNat < 0xA0) &&
    (lead.toNat != 0xF0 || 0x90 ≤ b.toNat) && (lead.toNat != 0xF4 || b.toNat < 0x90)

/-- The character of a lead and one trailing byte. -/
def ofTwo (a b : UInt8) : Char :=
  .ofNat (a.toNat % 32 * 64 + b.toNat % 64)

/-- The character of a lead and two trailing bytes. -/
def ofThree (a b c : UInt8) : Char :=
  .ofNat (a.toNat % 16 * 4096 + b.toNat % 64 * 64 + c.toNat % 64)

/-- The character of a lead and three trailing bytes. -/
def ofFour (a b c d : UInt8) : Char :=
  .ofNat (a.toNat % 8 * 262144 + b.toNat % 64 * 4096 + c.toNat % 64 * 64 + d.toNat % 64)

/-- What stands at the head of some bytes. -/
inductive Reading where
  /-- A character of `width` bytes. -/
  | char (c : Char) (width : Nat)
  /-- A sequence that is sound for `length` bytes, and no further. -/
  | ill (defect : Defect) (length : Nat)
  deriving DecidableEq, Repr

/-- A character of two bytes, of which the first is `a`. -/
def readTwo (a : UInt8) : Bytes → Reading
  | [] => .ill .unexpectedEnd 1
  | b :: _ => if isSecond a b then .char (ofTwo a b) 2 else .ill .invalidContinuation 1

/-- A character of three bytes, of which the first is `a`. -/
def readThree (a : UInt8) : Bytes → Reading
  | [] => .ill .unexpectedEnd 1
  | [b] => if isSecond a b then .ill .unexpectedEnd 2 else .ill .invalidContinuation 1
  | b :: c :: _ =>
    if isSecond a b then
      if isTrail c then .char (ofThree a b c) 3 else .ill .invalidContinuation 2
    else .ill .invalidContinuation 1

/-- A character of four bytes, of which the first is `a`. -/
def readFour (a : UInt8) : Bytes → Reading
  | [] => .ill .unexpectedEnd 1
  | [b] => if isSecond a b then .ill .unexpectedEnd 2 else .ill .invalidContinuation 1
  | [b, c] =>
    if isSecond a b then
      if isTrail c then .ill .unexpectedEnd 3 else .ill .invalidContinuation 2
    else .ill .invalidContinuation 1
  | b :: c :: d :: _ =>
    if isSecond a b then
      if isTrail c then
        if isTrail d then .char (ofFour a b c d) 4 else .ill .invalidContinuation 3
      else .ill .invalidContinuation 2
    else .ill .invalidContinuation 1

/-- What stands at the head of the bytes `a :: rest`. -/
def readChar (a : UInt8) (rest : Bytes) : Reading :=
  if a.toNat < 0x80 then .char (.ofNat a.toNat) 1
  else if a.toNat < 0xC2 then .ill .invalidStart 1
  else if a.toNat < 0xE0 then readTwo a rest
  else if a.toNat < 0xF0 then readThree a rest
  else if a.toNat < 0xF5 then readFour a rest
  else .ill .invalidStart 1

/-! ## Reading text -/

/-- The text of bytes whose head stands at `position` of the data, where the first `skip` bytes
belong to a character that has been read before. -/
def decodeFrom (skip position : Nat) : Bytes → Except Fault (List Char)
  | [] => .ok []
  | a :: rest =>
    match skip with
    | more + 1 => decodeFrom more (position + 1) rest
    | 0 =>
      match readChar a rest with
      | .char c width => (decodeFrom (width - 1) (position + 1) rest).map (c :: ·)
      | .ill defect length => .error ⟨defect, position, position + length⟩

/-- The characters that the bytes spell, or the first fault. -/
def decode (data : Bytes) : Except Fault (List Char) :=
  decodeFrom 0 0 data

/-- The string that the bytes spell, or the first fault. -/
def toText (data : Bytes) : Except Fault String :=
  (decode data).map String.ofList

/-- Bytes are well formed if they are the bytes of some text. -/
def WellFormed (data : Bytes) : Prop :=
  ∃ text : List Char, encode text = data

/-! ## Reading what is only partly text -/

/-- A character, or a byte that belongs to none. -/
inductive Piece where
  | char (c : Char)
  | stray (b : UInt8)
  deriving DecidableEq, Repr

/-- The character that a piece is, unless it is stray. -/
def Piece.char? : Piece → Option Char
  | .char c => some c
  | .stray _ => none

/-- The characters before a fault of `data`, then its bytes as strays. -/
def piecesUpTo (fault : Fault) (data : Bytes) : List Piece :=
  ((decode (data.take fault.start)).toOption.getD []).map .char ++
    ((data.take fault.stop).drop fault.start).map .stray

/-- Reads on after each fault, for at most `fuel` of them. -/
def piecesWithin : Nat → Bytes → List Piece
  | 0, data => data.map .stray
  | fuel + 1, data =>
    match decode data with
    | .ok text => text.map .char
    | .error fault => piecesUpTo fault data ++ piecesWithin fuel (data.drop fault.stop)

/-- The data as characters where they are well formed and as stray bytes elsewhere. A fault
covers at least one byte, so there are at most as many faults as bytes. -/
def pieces (data : Bytes) : List Piece :=
  piecesWithin (data.length + 1) data

end StreamRequest.Utf8
