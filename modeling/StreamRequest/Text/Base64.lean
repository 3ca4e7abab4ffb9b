/-
Bytes in base 64, with the alphabet that is safe in addresses (`-` and `_`
for 62 and 63) and padding: every three bytes become four characters, and a
last group of one or two bytes is filled up with `=`.
-/
import StreamRequest.Bytes

namespace StreamRequest.Base64

/-- The character of a value below 64. -/
def digit (value : Nat) : Char :=
  if value < 26 then .ofNat (0x41 + value)
  else if value < 52 then .ofNat (0x61 + (value - 26))
  else if value < 62 then .ofNat (0x30 + (value - 52))
  else if value = 62 then '-'
  else '_'

/-- The characters of a sequence of bytes. -/
def encode : Bytes → List Char
  | [] => []
  | [a] =>
    let n := a.toNat * 16
    [digit (n / 64), digit (n % 64), '=', '=']
  | [a, b] =>
    let n := (a.toNat * 256 + b.toNat) * 4
    [digit (n / 4096), digit (n / 64 % 64), digit (n % 64), '=']
  | a :: b :: c :: rest =>
    let n := (a.toNat * 256 + b.toNat) * 256 + c.toNat
    digit (n / 262144) :: digit (n / 4096 % 64) :: digit (n / 64 % 64) :: digit (n % 64) ::
      encode rest

/-- The letters of some bytes, with padding. -/
def text (data : Bytes) : String :=
  .ofList (encode data)

end StreamRequest.Base64
