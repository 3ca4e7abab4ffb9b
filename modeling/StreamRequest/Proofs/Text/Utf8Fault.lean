/-
Where the reader of UTF-8 stops: everything before the fault is text, and the
fault is what stands at the head of the rest (`decode_eq_error`).
-/
import StreamRequest.Proofs.Results
import StreamRequest.Proofs.Text.Ascii

namespace StreamRequest.Utf8

theorem decodeFrom_eq_error {position : Nat} {data : Bytes} {fault : Fault}
    (h : decodeFrom 0 position data = .error fault) :
    ∃ text a rest length, data = encode text ++ a :: rest ∧
      readChar a rest = .ill fault.defect length ∧ fault.start = position + (encode text).length ∧
      fault.stop = fault.start + length := by
  generalize hn : data.length = n
  induction n using Nat.strongRecOn generalizing data position with
  | _ n ih =>
    cases data with
    | nil => cases h
    | cons a rest =>
      rw [decodeFrom] at h
      split at h
      · rename_i c width hr
        obtain ⟨tail, more, rfl, he, rfl⟩ := encodeChar_of_readChar hr
        rw [decodeFrom_skip, Nat.add_sub_cancel, List.drop_left] at h
        cases hm : decodeFrom 0 (position + 1 + tail.length) more with
        | ok read => rw [hm] at h; cases h
        | error found =>
          rw [hm] at h
          obtain rfl := Except.error.inj h
          have hlt : more.length < n := by
            rw [← hn, List.length_cons, List.length_append]
            omega
          obtain ⟨text, b, after, length, rfl, hb, hs, hl⟩ := ih more.length hlt hm rfl
          refine ⟨c :: text, b, after, length, ?_, hb, ?_, hl⟩
          · simp [he]
          · rw [hs, encode_cons, he, List.length_append, List.length_cons]
            omega
      · rename_i defect length hr
        obtain rfl := Except.error.inj h
        exact ⟨[], a, rest, length, rfl, hr, rfl, rfl⟩

/-- The data before a fault are the bytes of a text, and the fault is at the head of the others. -/
theorem decode_eq_error {data : Bytes} {fault : Fault} (h : decode data = .error fault) :
    ∃ text a rest length, data = encode text ++ a :: rest ∧
      readChar a rest = .ill fault.defect length ∧ fault.start = (encode text).length ∧
      fault.stop = fault.start + length := by
  obtain ⟨text, a, rest, length, hd, hr, hs, hl⟩ := decodeFrom_eq_error h
  exact ⟨text, a, rest, length, hd, hr, by omega, hl⟩

theorem toText_eq_error_iff {data : Bytes} {fault : Fault} :
    toText data = .error fault ↔ decode data = .error fault :=
  Results.map_eq_error_iff

theorem toText_take_start {data : Bytes} {fault : Fault} (h : toText data = .error fault) :
    ∃ text, toText (data.take fault.start) = .ok text := by
  obtain ⟨text, a, rest, length, rfl, -, hs, -⟩ := decode_eq_error (toText_eq_error_iff.1 h)
  refine ⟨.ofList text, toText_eq_ok_iff.2 ?_⟩
  rw [hs, List.take_left, ofText, String.toList_ofList]

end StreamRequest.Utf8
