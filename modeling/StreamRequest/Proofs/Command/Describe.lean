/-
What a log says of a request is one line of printable characters.

Of a command the stream is quoted, and its event is quoted or listed byte by byte;
all else is names and numbers (`all_printable_describe`). Of a refusal the log
names the class alone.
-/
import StreamRequest.Proofs.Text.Printable
import StreamRequest.Request

namespace StreamRequest

open Printable (All)

/-! ## Events -/

theorem Payload.all_printable_listing (data : Bytes) : All (listing data).toList := by
  have hopen : All "[".toList := by decide
  have hclose : All "]".toList := by decide
  have hcomma : All ", ".toList := by decide
  refine (hopen.toList_append ?_).toList_append hclose
  rw [String.toList_intercalate]
  refine hcomma.intercalate fun part hp => ?_
  simp only [List.map_map, List.mem_map, Function.comp_apply] at hp
  obtain ⟨b, -, rfl⟩ := hp
  exact all_printable_natText b.toNat

theorem Payload.all_printable_format (limit : Option Int) (data : Bytes) :
    All (format limit data).toList := by
  unfold format
  cases view limit data with
  | text t => exact all_printable_quote t
  | bytes b => exact all_printable_listing b

/-! ## Commands -/

namespace Command

theorem all_printable_fields (c : Command) :
    ∀ field ∈ c.fields, All field.1.toList ∧ All field.2.toList := by
  have names : All "stream".toList ∧ All "event".toList ∧ All "size".toList ∧ All "from".toList := by
    decide
  intro field hf
  cases c with
  | publish stream event =>
    simp only [fields, List.mem_append, List.mem_cons, List.not_mem_nil, or_false] at hf
    rcases hf with (rfl | rfl) | hf
    · exact ⟨names.1, all_printable_quote stream⟩
    · exact ⟨names.2.1, Payload.all_printable_format _ event⟩
    · split at hf
      · rw [List.mem_singleton.1 hf]
        exact ⟨names.2.2.1, all_printable_natText event.length⟩
      · cases hf
  | subscribe stream offset =>
    simp only [fields, List.mem_cons, List.not_mem_nil, or_false] at hf
    rcases hf with rfl | rfl
    · exact ⟨names.1, all_printable_quote stream⟩
    · exact ⟨names.2.2.2, all_printable_intText offset⟩

theorem all_printable_listFields {separator : String} (hs : All separator.toList) (c : Command) :
    All (c.listFields separator).toList := by
  have equals : All "=".toList := by decide
  rw [listFields, String.toList_intercalate]
  refine hs.intercalate fun part hp => ?_
  simp only [List.map_map, List.mem_map, Function.comp_apply] at hp
  obtain ⟨field, hf, rfl⟩ := hp
  obtain ⟨hname, hvalue⟩ := c.all_printable_fields field hf
  exact (hname.toList_append equals).toList_append hvalue

/-- Whatever its stream and its event hold, a command is described in printable characters. -/
theorem all_printable_describe (c : Command) : All c.describe.toList := by
  have hclass : All c.className.toList := by
    cases c <;> simp only [className] <;> decide
  have hopen : All "(".toList := by decide
  have hclose : All ")".toList := by decide
  have hcomma : All ", ".toList := by decide
  exact ((hclass.toList_append hopen).toList_append
    (c.all_printable_listFields hcomma)).toList_append hclose

end Command

/-! ## Log lines -/

end StreamRequest
