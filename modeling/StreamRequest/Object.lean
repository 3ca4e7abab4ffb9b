/-
What a caller may hand over in place of a value.

Reading and writing are open to any object. One that is no value at all is no
array either when it is read, and is told by the name of its type when it is to
be written.
-/
import StreamRequest.Request
import StreamRequest.Value.Wire

namespace StreamRequest

/-- A value, or something that is none. -/
inductive Object where
  | value (value : Value)
  /-- An object of a type that no value has. -/
  | foreign (typeName : String)
  deriving DecidableEq

namespace Object

/-! ## Reading -/

/-- The arguments of a request, whatever is handed over as one. -/
def arguments : Object → Except ShapeError (List Bytes)
  | .value v => Request.arguments v
  | .foreign _ => .error ⟨.notAnArray, none⟩

/-- The command that an object asks for. -/
def decode (object : Object) : Except RequestError Command := do
  let args ← object.arguments.mapError .shape
  (Request.command args).mapError .command

/-- The lines that reading an object leaves in a log at debug level. -/
def decodeLog : Object → List String
  | .value v => Request.decodeLog v
  | .foreign _ => []

/-! ## Writing -/

/-- Why an object has no wire form. -/
inductive Unwritable where
  | value (fault : Value.Unwritable)
  /-- The object is no value, and its type has the name. -/
  | notAValue (typeName : String)
  deriving DecidableEq, Repr

/-- What is said of an object without a wire form. -/
def Unwritable.message : Unwritable → String
  | .value fault => fault.message
  | .notAValue typeName => "Not a RESP value: " ++ typeName

/-- The name of the class of the failure. -/
def Unwritable.className : Unwritable → String
  | .value fault => fault.className
  | .notAValue _ => "TypeError"

/-- The bytes of an object. -/
def encode : Object → Except Unwritable Bytes
  | .value v => v.encode.mapError .value
  | .foreign typeName => .error (.notAValue typeName)

end Object

end StreamRequest
