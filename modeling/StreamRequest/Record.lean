/-
Records of named fields, checked before they become commands or values.

Nothing is converted: a text is not taken for bytes, nor a truth value for an
integer. Every bad field is reported, in the order in which the class declares
its fields; fields that the class does not know are passed over. The words that
are said of bad fields are left out.
-/
import StreamRequest.Command.Draft

namespace StreamRequest

/-- What a field may hold. -/
inductive Field where
  | text (text : CodeText)
  | bytes (data : Bytes)
  | integer (number : Int)
  | boolean (truth : Bool)
  | float (spelling : String)
  | null
  deriving DecidableEq, Repr

/-- Fields with their names. -/
abbrev Record := List (String × Field)

/-- What is wrong with a field. -/
inductive FieldFault where
  | missing
  | notText
  | notBytes
  | notAnInteger
  | notAList
  /-- A text that is to be searched has surrogates. -/
  | notUnicode
  /-- The stream of a subscription has a colon. -/
  | colon
  /-- An integer is below its least value. -/
  | tooSmall
  /-- An integer is above its greatest value. -/
  | tooLarge
  deriving DecidableEq, Repr

/-- A value, or the bad fields in order. -/
abbrev Checked (α : Type) := Except (List (String × FieldFault)) α

/-- What a record can become. -/
inductive Model where
  | command (draft : Draft)
  | value (value : Value)
  deriving DecidableEq

/-- The classes that records are checked for. -/
inductive RecordClass where
  | publish
  | subscribe
  | simple
  | error
  | integer
  | bulk
  | array
  deriving DecidableEq, Repr

namespace Record

/-! ## Checks of single fields -/

/-- A single bad field. -/
def bad (name : String) (fault : FieldFault) : Checked α :=
  .error [(name, fault)]

/-- Two checks together, with the faults of both. -/
def both : Checked α → Checked β → Checked (α × β)
  | .ok a, .ok b => .ok (a, b)
  | .ok _, .error faults => .error faults
  | .error faults, .ok _ => .error faults
  | .error faults, .error more => .error (faults ++ more)

/-- A field that must be there and hold a text. -/
def textField (record : Record) (name : String) : Checked CodeText :=
  match record.lookup name with
  | some (.text t) => .ok t
  | some _ => bad name .notText
  | none => bad name .missing

/-- A field that must be there and hold bytes. -/
def bytesField (record : Record) (name : String) : Checked Bytes :=
  match record.lookup name with
  | some (.bytes b) => .ok b
  | some _ => bad name .notBytes
  | none => bad name .missing

/-- An integer between two bounds. -/
def integerIn (least greatest : Int) (name : String) : Field → Checked Int
  | .integer i =>
    if i < least then bad name .tooSmall
    else if greatest < i then bad name .tooLarge
    else .ok i
  | _ => bad name .notAnInteger

/-- A field that must be there and hold an integer between two bounds. -/
def integerField (least greatest : Int) (record : Record) (name : String) : Checked Int :=
  match record.lookup name with
  | some field => integerIn least greatest name field
  | none => bad name .missing

/-- The stream of a subscription. It is searched for a colon, which surrogates do not let it be. -/
def plainStream (record : Record) : Checked CodeText := do
  let stream ← record.textField "stream"
  match stream.toText with
  | .error _ => bad "stream" .notUnicode
  | .ok text => if ':' ∈ text.toList then bad "stream" .colon else .ok stream

/-- The offset of a subscription, under either of its names; it is the tail where there is
none. -/
def offsetField (record : Record) : Checked Int :=
  match record.lookup "from", record.lookup "from_" with
  | some field, _ => integerIn Command.tail Command.maxOffset "from" field
  | none, some field => integerIn Command.tail Command.maxOffset "from_" field
  | none, none => .ok Command.tail

/-! ## Commands -/

/-- A publication. Its stream may be any text. -/
def publication (record : Record) : Checked Draft := do
  let (stream, event) ← both (record.textField "stream") (record.bytesField "event")
  return .publish stream event

/-- A subscription, at the tail where no offset is given. -/
def subscription (record : Record) : Checked Draft := do
  let (stream, offset) ← both record.plainStream record.offsetField
  return .subscribe stream offset

/-! ## Values -/

/-- The least integer of 64 bits. -/
def leastInteger : Int := -0x8000000000000000

/-- The greatest integer of 64 bits. -/
def greatestInteger : Int := 0x7FFFFFFFFFFFFFFF

/-- An integer of the wire. -/
def integerValue (record : Record) : Checked Value := do
  let i ← record.integerField leastInteger greatestInteger "value"
  return .integer (.ofInt i)

/-- A bulk string, null where no bytes are given. -/
def bulkValue (record : Record) : Checked Value :=
  match record.lookup "value" with
  | some (.bytes b) => .ok (.bulk b)
  | some .null | none => .ok .nullBulk
  | some _ => bad "value" .notBytes

/-- An array. No field can hold a list, so only the null array can be made. -/
def arrayValue (record : Record) : Checked Value :=
  match record.lookup "values" with
  | some .null | none => .ok .nullArray
  | some _ => bad "values" .notAList

/-- What a record of a class becomes. -/
def build (record : Record) : RecordClass → Checked Model
  | .publish => record.publication.map .command
  | .subscribe => record.subscription.map .command
  | .simple => (record.textField "value").map fun t => .value (.simple t)
  | .error => (record.textField "value").map fun t => .value (.error t)
  | .integer => record.integerValue.map .value
  | .bulk => record.bulkValue.map .value
  | .array => record.arrayValue.map .value

end Record

end StreamRequest
