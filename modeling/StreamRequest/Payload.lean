/-
Payloads for people: opaque bytes as text where they are UTF-8, and as a list
of numbers where they are not.

A payload may be cut first. A cut that splits a character does not turn text
into numbers: what is left of that character is dropped, and three dots show
the cut.
-/
import StreamRequest.Text.Cut
import StreamRequest.Text.Decimal
import StreamRequest.Text.Quoted
import StreamRequest.Text.Utf8

namespace StreamRequest.Payload

/-- What is shown of a payload: text where it is text, and its bytes otherwise. -/
inductive View where
  | text (text : String)
  | bytes (data : Bytes)
  deriving DecidableEq, Repr

/-- The view of a payload that is shown whole. -/
def whole (data : Bytes) : View :=
  match Utf8.toText data with
  | .ok text => .text text
  | .error _ => .bytes data

/-- The view of what a cut has left. -/
def leftover (data : Bytes) : View :=
  match Utf8.toText data with
  | .ok text => .text (text ++ Cut.ellipsis)
  | .error ⟨.unexpectedEnd, start, _⟩ =>
    match Utf8.toText (data.take start) with
    | .ok text => .text (text ++ Cut.ellipsis)
    | .error _ => .bytes data
  | .error _ => .bytes data

/-- The view of a payload, cut if it has more bytes than the limit. A negative limit cuts that
many bytes from the end. -/
def view (limit : Option Int) (data : Bytes) : View :=
  match limit with
  | none => whole data
  | some most => if most < data.length then leftover (Cut.keep most data) else whole data

/-- Bytes as a list of their values. -/
def listing (data : Bytes) : String :=
  "[" ++ ", ".intercalate (data.map fun b => Decimal.natText b.toNat) ++ "]"

/-- A view on one line, a quoted text or a list of numbers. -/
def View.line : View → String
  | .text t => Quoted.quote t
  | .bytes b => listing b

/-- A payload on one line, cut to the limit. -/
def format (limit : Option Int) (data : Bytes) : String :=
  (view limit data).line

end StreamRequest.Payload
