/-
What the classes take, field by field.

Each check passes exactly on the fields that it is for. So the drafts that
records become are the valid ones, and every valid draft is one that some
record becomes (`Draft.valid_iff_exists_record`).
-/
import StreamRequest.Proofs.Command.Draft
import StreamRequest.Record

namespace StreamRequest

namespace Record

open Results

variable {record : Record}

/-! ## Single fields -/

theorem both_eq_ok_iff {x : Checked α} {y : Checked β} {a : α} {b : β} :
    both x y = .ok (a, b) ↔ x = .ok a ∧ y = .ok b := by
  cases x <;> cases y <;> simp [both]

theorem textField_eq_ok_iff {name : String} {text : CodeText} :
    record.textField name = .ok text ↔ record.lookup name = some (.text text) := by
  unfold textField
  cases record.lookup name with
  | none => simp [bad]
  | some field => cases field <;> simp [bad]

theorem integerIn_eq_ok_iff {least greatest : Int} {name : String} {field : Field} {i : Int} :
    integerIn least greatest name field = .ok i ↔
      field = .integer i ∧ least ≤ i ∧ i ≤ greatest := by
  cases field with
  | integer j =>
    simp only [integerIn, bad]
    split
    · simp only [reduceCtorEq, false_iff]
      rintro ⟨h, hl, -⟩
      cases h
      omega
    split
    · simp only [reduceCtorEq, false_iff]
      rintro ⟨h, -, hg⟩
      cases h
      omega
    · constructor
      · intro h
        cases h
        exact ⟨rfl, by omega, by omega⟩
      · rintro ⟨h, -⟩
        cases h
        rfl
  | text | bytes | boolean | float | null => simp [integerIn, bad]

theorem plainStream_eq_ok_iff {stream : CodeText} :
    record.plainStream = .ok stream ↔
      record.lookup "stream" = some (.text stream) ∧ (∀ index, .surrogate index ∉ stream) ∧
        .char ':' ∉ stream := by
  rw [← CodeText.exists_eq_ofText_iff, ← textField_eq_ok_iff, plainStream, bind_eq_ok_iff]
  constructor
  · rintro ⟨found, hf, h⟩
    split at h
    · cases h
    · rename_i text ht
      split at h
      · cases h
      · rename_i hc
        cases h
        obtain rfl := CodeText.toText_eq_ok_iff.1 ht
        exact ⟨hf, ⟨text, rfl⟩, fun hm => hc (CodeText.char_mem_ofText.1 hm)⟩
  · rintro ⟨hf, ⟨text, rfl⟩, hc⟩
    refine ⟨_, hf, ?_⟩
    rw [CodeText.toText_ofText]
    exact if_neg fun hm => hc (CodeText.char_mem_ofText.2 hm)

theorem bounds_of_offsetField {i : Int} (h : record.offsetField = .ok i) :
    Command.tail ≤ i ∧ i ≤ Command.maxOffset := by
  unfold offsetField at h
  split at h
  · exact (integerIn_eq_ok_iff.1 h).2
  · exact (integerIn_eq_ok_iff.1 h).2
  · obtain rfl := Except.ok.inj h
    exact ⟨Int.le_refl _, by decide⟩

/-! ## Commands -/

theorem publication_eq_ok {d : Draft} (h : record.publication = .ok d) :
    ∃ stream event, d = .publish stream event := by
  obtain ⟨⟨stream, event⟩, -, h⟩ := bind_eq_ok_iff.1 h
  exact ⟨stream, event, (Except.ok.inj h).symm⟩

theorem subscription_eq_ok_iff {d : Draft} :
    record.subscription = .ok d ↔
      ∃ stream i, record.plainStream = .ok stream ∧ record.offsetField = .ok i ∧
        d = .subscribe stream i := by
  rw [subscription, bind_eq_ok_iff]
  constructor
  · rintro ⟨⟨stream, i⟩, hb, h⟩
    obtain ⟨hs, hi⟩ := both_eq_ok_iff.1 hb
    exact ⟨stream, i, hs, hi, (Except.ok.inj h).symm⟩
  · rintro ⟨stream, i, hs, hi, rfl⟩
    exact ⟨(stream, i), both_eq_ok_iff.2 ⟨hs, hi⟩, rfl⟩

theorem valid_of_build {asked : RecordClass} {d : Draft}
    (h : record.build asked = .ok (.command d)) : d.Valid := by
  cases asked with
  | publish =>
    obtain ⟨draft, hd, h⟩ := map_eq_ok_iff.1 h
    cases h
    obtain ⟨stream, event, rfl⟩ := publication_eq_ok hd
    exact trivial
  | subscribe =>
    obtain ⟨draft, hd, h⟩ := map_eq_ok_iff.1 h
    cases h
    obtain ⟨stream, i, hs, hi, rfl⟩ := subscription_eq_ok_iff.1 hd
    obtain ⟨-, hu, hc⟩ := plainStream_eq_ok_iff.1 hs
    exact ⟨hu, hc, bounds_of_offsetField hi⟩
  | simple | error | integer | bulk | array =>
    obtain ⟨_, -, h⟩ := map_eq_ok_iff.1 h
    cases h

end Record

/-- **What the classes allow** is what is built of some record. -/
theorem Draft.valid_iff_exists_record {d : Draft} :
    d.Valid ↔ ∃ (record : Record) (asked : RecordClass), record.build asked = .ok (.command d) := by
  refine ⟨fun h => ?_, fun ⟨_, _, h⟩ => Record.valid_of_build h⟩
  cases d with
  | publish stream event => exact ⟨[("stream", .text stream), ("event", .bytes event)], .publish, rfl⟩
  | subscribe stream offset =>
    obtain ⟨hu, hc, hb⟩ := h
    have hs : Record.subscription [("stream", .text stream), ("from", .integer offset)] =
        .ok (.subscribe stream offset) :=
      Record.subscription_eq_ok_iff.2 ⟨stream, offset, Record.plainStream_eq_ok_iff.2 ⟨rfl, hu, hc⟩,
        Record.integerIn_eq_ok_iff.2 ⟨rfl, hb⟩, rfl⟩
    exact ⟨_, .subscribe, Results.map_eq_ok_iff.2 ⟨_, hs, rfl⟩⟩

end StreamRequest
