/-
Results that are a value or an error, taken apart.
-/
namespace StreamRequest.Results

variable {α β ε ε' : Type}

instance decidableEq [DecidableEq ε] [DecidableEq α] : DecidableEq (Except ε α)
  | .ok a, .ok b => decidable_of_iff (a = b) (by simp)
  | .error e, .error f => decidable_of_iff (e = f) (by simp)
  | .ok _, .error _ | .error _, .ok _ => .isFalse (by simp)

@[simp] theorem ok_bind (a : α) (f : α → Except ε β) : (Except.ok a >>= f) = f a := rfl

theorem bind_map_ok {γ : Type} (x : Except ε α) (f : α → β) (g : β → Except ε γ) :
    (x.map f >>= g) = x >>= fun a => g (f a) := by
  cases x <;> rfl

theorem bind_eq_ok_iff {x : Except ε α} {f : α → Except ε β} {b : β} :
    (x >>= f) = .ok b ↔ ∃ a, x = .ok a ∧ f a = .ok b := by
  refine ⟨fun h => ?_, fun h => ?_⟩
  · cases x with
    | error e => cases h
    | ok a => exact ⟨a, rfl, h⟩
  · obtain ⟨a, rfl, h⟩ := h
    exact h

theorem bind_eq_error_iff {x : Except ε α} {f : α → Except ε β} {e : ε} :
    (x >>= f) = .error e ↔ x = .error e ∨ ∃ a, x = .ok a ∧ f a = .error e := by
  refine ⟨fun h => ?_, fun h => ?_⟩
  · cases x with
    | error d => exact .inl (congrArg Except.error (Except.error.inj h))
    | ok a => exact .inr ⟨a, rfl, h⟩
  · obtain rfl | ⟨a, rfl, h⟩ := h
    · rfl
    · exact h

theorem map_eq_ok_iff {x : Except ε α} {f : α → β} {b : β} :
    x.map f = .ok b ↔ ∃ a, x = .ok a ∧ f a = b := by
  refine ⟨fun h => ?_, fun h => ?_⟩
  · cases x with
    | error e => cases h
    | ok a => exact ⟨a, rfl, Except.ok.inj h⟩
  · obtain ⟨a, rfl, rfl⟩ := h
    rfl

theorem map_eq_error_iff {x : Except ε α} {f : α → β} {e : ε} :
    x.map f = .error e ↔ x = .error e := by
  refine ⟨fun h => ?_, fun h => ?_⟩
  · cases x with
    | error f => exact congrArg Except.error (Except.error.inj h)
    | ok a => cases h
  · rw [h]
    rfl

theorem mapError_eq_error_iff {x : Except ε α} {f : ε → ε'} {e : ε'} :
    x.mapError f = .error e ↔ ∃ d, x = .error d ∧ f d = e := by
  refine ⟨fun h => ?_, fun h => ?_⟩
  · cases x with
    | error d => exact ⟨d, rfl, Except.error.inj h⟩
    | ok a => cases h
  · obtain ⟨d, rfl, rfl⟩ := h
    rfl

theorem mapError_eq_ok_iff {x : Except ε α} {f : ε → ε'} {a : α} :
    x.mapError f = .ok a ↔ x = .ok a := by
  refine ⟨fun h => ?_, fun h => ?_⟩
  · cases x with
    | error e => cases h
    | ok b => exact congrArg Except.ok (Except.ok.inj h)
  · rw [h]
    rfl

end StreamRequest.Results
