/-
What is known of values holds of all objects.

An object is read and written as the value that it is, so only values are
accepted, and each of the two results is that of the value. Anything else is
refused in one way each: it is no array (`decode_eq_error_iff`), and it has no
bytes (`encode_eq_error_iff`).
-/
import StreamRequest.Object
import StreamRequest.Proofs.Results

namespace StreamRequest.Object

open Results

/-! ## Reading -/

@[simp] theorem decode_value (v : Value) : (value v).decode = Request.decode v := rfl

@[simp] theorem decode_foreign (typeName : String) :
    (foreign typeName).decode = .error (.shape ⟨.notAnArray, none⟩) := rfl

/-- Only a value asks for a command. -/
theorem decode_eq_ok_iff {object : Object} {c : Command} :
    object.decode = .ok c ↔ ∃ v, object = .value v ∧ Request.decode v = .ok c := by
  cases object <;> simp

theorem decode_eq_error_iff {object : Object} {error : RequestError} :
    object.decode = .error error ↔
      (∃ v, object = .value v ∧ Request.decode v = .error error) ∨
        (∃ typeName, object = .foreign typeName) ∧ error = .shape ⟨.notAnArray, none⟩ := by
  cases object <;> simp [eq_comm]

/-- The log has one line for an object that asks for a command, and none for any other. -/
theorem decodeLog_eq_cons_iff {object : Object} {line : String} {rest : List String} :
    object.decodeLog = line :: rest ↔
      ∃ c, object.decode = .ok c ∧ line = Request.acceptedLine c ∧ rest = [] := by
  cases object with
  | foreign typeName => simp [decodeLog]
  | value v =>
    simp only [decodeLog, Request.decodeLog, decode_value]
    cases Request.decode v <;> simp [eq_comm]

/-! ## Writing -/

/-- Only a value has bytes. -/
theorem encode_eq_ok_iff {object : Object} {wire : Bytes} :
    object.encode = .ok wire ↔ ∃ v, object = .value v ∧ v.encode = .ok wire := by
  cases object <;> simp [encode, mapError_eq_ok_iff]

theorem encode_eq_error_iff {object : Object} {fault : Unwritable} :
    object.encode = .error fault ↔
      (∃ v inner, object = .value v ∧ v.encode = .error inner ∧ fault = .value inner) ∨
        ∃ typeName, object = .foreign typeName ∧ fault = .notAValue typeName := by
  cases object with
  | value v => simp [encode, mapError_eq_error_iff, eq_comm (a := fault)]
  | foreign typeName => simp [encode, eq_comm]

end StreamRequest.Object
