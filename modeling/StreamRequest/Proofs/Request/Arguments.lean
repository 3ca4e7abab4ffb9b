/-
Which values are requests, and where any other array stops being one.

The items of an array are looked at one after the other, up to the first that is
no argument (`FirstOffender`): that item alone decides what is said of the array,
and those before it only how far on it stands (`bulkItems_of_firstOffender`). An
array without such an item is the request of what its items hold.
-/
import StreamRequest.Proofs.Request.Reading

namespace StreamRequest.Request

/-- An argument is a bulk string that is not null. -/
def IsArgument (item : Value) : Prop :=
  ∃ data, item = .bulk data

/-- The least index at which an item of an array is no argument, and that item. -/
structure FirstOffender (items : List Value) (index : Nat) (offender : Value) : Prop where
  there : items[index]? = some offender
  offends : ¬IsArgument offender
  least : ∀ i < index, ∃ item, items[i]? = some item ∧ IsArgument item

/-- What is wrong with an item that is no argument. -/
def offence (item : Value) : Shape :=
  if item = .nullBulk then .nullBulkString else .notABulkString

namespace FirstOffender

variable {items : List Value} {index : Nat} {item offender : Value}

theorem head (h : ¬IsArgument item) : FirstOffender (item :: items) 0 item :=
  ⟨rfl, h, fun _ hi => absurd hi (Nat.not_lt_zero _)⟩

theorem cons (hi : IsArgument item) (h : FirstOffender items index offender) :
    FirstOffender (item :: items) (index + 1) offender := by
  refine ⟨h.there, h.offends, fun i hlt => ?_⟩
  cases i with
  | zero => exact ⟨item, rfl, hi⟩
  | succ i => exact h.least i (Nat.lt_of_succ_lt_succ hlt)

theorem tail (h : FirstOffender (item :: items) (index + 1) offender) :
    IsArgument item ∧ FirstOffender items index offender := by
  obtain ⟨found, hf, ha⟩ := h.least 0 (Nat.succ_pos index)
  obtain rfl := Option.some.inj hf
  exact ⟨ha, h.there, h.offends, fun i hlt => h.least (i + 1) (Nat.succ_lt_succ hlt)⟩

end FirstOffender

/-- The items are looked at up to the first offender, and it is reported where it stands. -/
theorem bulkItems_of_firstOffender {items : List Value} {index : Nat} {offender : Value}
    (h : FirstOffender items index offender) (start : Nat) :
    bulkItems start items = .error ⟨offence offender, some ↑(start + index)⟩ := by
  induction items generalizing index start with
  | nil => cases h.there
  | cons item rest ih =>
    cases index with
    | zero =>
      obtain rfl := Option.some.inj h.there
      cases item with
      | bulk data => exact absurd ⟨data, rfl⟩ h.offends
      | simple | error | integer | nullBulk | array | nullArray => rfl
    | succ index =>
      obtain ⟨⟨data, rfl⟩, hrest⟩ := h.tail
      rw [bulkItems, ih hrest (start + 1), Nat.add_assoc, Nat.add_comm 1]
      rfl

theorem arguments_of_firstOffender {items : List Value} {index : Nat} {offender : Value}
    (h : FirstOffender items index offender) :
    arguments (.array items) = .error ⟨offence offender, some index⟩ := by
  rw [arguments, bulkItems_of_firstOffender h, Nat.zero_add]

theorem exists_firstOffender {items : List Value} (h : ∀ args : List Bytes, items ≠ args.map .bulk) :
    ∃ index offender, FirstOffender items index offender := by
  induction items with
  | nil => exact absurd rfl (h [])
  | cons item rest ih =>
    by_cases hi : IsArgument item
    · obtain ⟨data, rfl⟩ := hi
      have hrest : ∀ args : List Bytes, rest ≠ args.map .bulk := fun args e =>
        h (data :: args) (by rw [e, List.map_cons])
      obtain ⟨index, offender, hf⟩ := ih hrest
      exact ⟨index + 1, offender, hf.cons ⟨data, rfl⟩⟩
    · exact ⟨0, item, .head hi⟩

theorem arguments_of_not_array {value : Value} (h : value.kind ≠ .array) :
    arguments value = .error ⟨.notAnArray, none⟩ := by
  cases value with
  | array | nullArray => exact absurd rfl h
  | simple | error | integer | bulk | nullBulk => rfl

/-- **What has arguments.** A value has arguments exactly if it is the request of them. Of any other
array the first item that is no argument is reported by its index, as a null or as something else,
whatever follows it. Of a null array, and of what is no array, no index is given. -/
theorem arguments_by_shape :
    (∀ value args, arguments value = .ok args ↔ value = .request args) ∧
    (∀ args, arguments (.request args) = .ok args) ∧
    (∀ items, (∀ args, Value.array items ≠ .request args) →
      ∃ index offender, FirstOffender items index offender) ∧
    (∀ items index offender, FirstOffender items index offender →
      arguments (.array items) =
        .error ⟨if offender = .nullBulk then .nullBulkString else .notABulkString, some index⟩) ∧
    (∀ value, value.kind ≠ .array → arguments value = .error ⟨.notAnArray, none⟩) ∧
    arguments .nullArray = .error ⟨.nullArray, none⟩ := by
  refine ⟨fun _ _ => arguments_eq_ok_iff, arguments_request, fun items h => ?_,
    fun _ _ _ => arguments_of_firstOffender, fun _ => arguments_of_not_array, rfl⟩
  exact exists_firstOffender fun args e => h args (congrArg Value.array e)

/-- A null between two arrays that are no arguments either, and a status for a request. -/
theorem arguments_by_shape_null_first :
    let items := [Value.bulk [0x61], .nullBulk, .array [.bulk []], .nullArray]
    (∀ args, Value.array items ≠ .request args) ∧ FirstOffender items 1 .nullBulk ∧
      (∃ index offender, FirstOffender items index offender) ∧
      arguments (.array items) = .error ⟨.nullBulkString, some 1⟩ ∧
      (Value.simple "PING").kind ≠ .array ∧
      arguments (.simple "PING") = .error ⟨.notAnArray, none⟩ := by
  intro items
  have hn : ∀ args, Value.array items ≠ .request args := by
    intro args e
    have hok : arguments (.array items) = .ok args := (arguments_by_shape.1 _ _).2 e
    cases hok
  have hf : FirstOffender items 1 .nullBulk := .cons ⟨_, rfl⟩ (.head fun h => nomatch h)
  have hk : (Value.simple "PING").kind ≠ .array := by decide
  exact ⟨hn, hf, arguments_by_shape.2.2.1 items hn, arguments_by_shape.2.2.2.1 items 1 _ hf, hk,
    arguments_by_shape.2.2.2.2.1 _ hk⟩

end StreamRequest.Request
