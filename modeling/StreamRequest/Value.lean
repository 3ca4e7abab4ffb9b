/-
The value trees of the wire: what a request arrives as, before it is known to
be one.

A bulk string and an array may each be null, which is not the same as empty.
The text of a status or an error may be any row of code points; whether it can
be written is found when it is. `Value.request` is the shape every request has,
an array of bulk strings.
-/
import StreamRequest.Text.CodeText

namespace StreamRequest

/-- A value of the wire. -/
inductive Value where
  /-- A status on one line. -/
  | simple (text : CodeText)
  /-- An error on one line. -/
  | error (text : CodeText)
  /-- A signed 64-bit integer. -/
  | integer (number : Int64)
  /-- Any bytes, with their length in front. -/
  | bulk (data : Bytes)
  /-- No bytes at all. -/
  | nullBulk
  /-- Values, with their number in front. -/
  | array (items : List Value)
  /-- No array at all. -/
  | nullArray

/-- The kinds of values, each with a marker of its own. -/
inductive Kind where
  | simple
  | error
  | integer
  | bulk
  | array
  deriving DecidableEq, Repr

/-- The character that begins a value of the kind. -/
def Kind.marker : Kind → Char
  | .simple => '+'
  | .error => '-'
  | .integer => ':'
  | .bulk => '$'
  | .array => '*'

/-- The name of a kind in what is said of its values. -/
def Kind.label : Kind → String
  | .simple => "simple_string"
  | .error => "error"
  | .integer => "integer"
  | .bulk => "bulk_string"
  | .array => "array"

namespace Value

/-- The kind of a value; the nulls belong to the kind they are the null of. -/
def kind : Value → Kind
  | .simple _ => .simple
  | .error _ => .error
  | .integer _ => .integer
  | .bulk _ | .nullBulk => .bulk
  | .array _ | .nullArray => .array

/-- Whether a value is one of the nulls. -/
def isNull : Value → Bool
  | .nullBulk | .nullArray => true
  | _ => false

/-- The request whose arguments are the given bytes. -/
def request (arguments : List Bytes) : Value :=
  .array (arguments.map .bulk)

/-- The bytes of an argument that is given as text or as bytes. -/
def argumentBytes : CodeText ⊕ Bytes → Except Surrogates Bytes
  | .inl text => text.encode
  | .inr data => .ok data

/-- The request whose arguments are given as texts and bytes, or the first surrogates in them. -/
def requestOf (arguments : List (CodeText ⊕ Bytes)) : Except Surrogates Value :=
  (arguments.mapM argumentBytes).map request

/-! ## Equality -/

mutual

/-- Whether two values are the same tree. -/
def same : Value → Value → Bool
  | .simple a, .simple b => a == b
  | .error a, .error b => a == b
  | .integer a, .integer b => a == b
  | .bulk a, .bulk b => a == b
  | .nullBulk, .nullBulk => true
  | .array as, .array bs => sameAll as bs
  | .nullArray, .nullArray => true
  | _, _ => false

/-- Whether two lists of values are the same item by item. -/
def sameAll : List Value → List Value → Bool
  | [], [] => true
  | a :: as, b :: bs => same a b && sameAll as bs
  | _, _ => false

end

mutual

theorem eq_of_same : ∀ {a b : Value}, same a b = true → a = b
  | .simple _, .simple _, h => congrArg Value.simple (by simpa [same] using h)
  | .error _, .error _, h => congrArg Value.error (by simpa [same] using h)
  | .integer _, .integer _, h => congrArg Value.integer (by simpa [same] using h)
  | .bulk _, .bulk _, h => congrArg Value.bulk (by simpa [same] using h)
  | .nullBulk, .nullBulk, _ => rfl
  | .array _, .array _, h => congrArg Value.array (eq_of_sameAll (by simpa [same] using h))
  | .nullArray, .nullArray, _ => rfl

theorem eq_of_sameAll : ∀ {as bs : List Value}, sameAll as bs = true → as = bs
  | [], [], _ => rfl
  | _ :: _, _ :: _, h => by
    simp only [sameAll, Bool.and_eq_true] at h
    rw [eq_of_same h.1, eq_of_sameAll h.2]

end

mutual

theorem same_self : ∀ a : Value, same a a = true
  | .simple _ | .error _ | .integer _ | .bulk _ | .nullBulk | .nullArray => by simp [same]
  | .array items => by simp [same, sameAll_self items]

theorem sameAll_self : ∀ as : List Value, sameAll as as = true
  | [] => rfl
  | a :: as => by simp [sameAll, same_self a, sameAll_self as]

end

instance : DecidableEq Value := fun a b =>
  if h : same a b = true then .isTrue (eq_of_same h)
  else .isFalse fun e => h (e ▸ same_self a)

end Value

end StreamRequest
