/-
Commands are told from their descriptions, but for what a cut leaves out of an event.

A description is taken apart from the front: the class, the quoted stream, and the
event as it is shown, each of which ends by itself. Behind the event stands its size,
or at once the closing parenthesis, and the size is there exactly if the event was
cut. So an event that is shown whole is told from every other (`describe_eq_iff`).
-/
import StreamRequest.Proofs.Command.Describe
import StreamRequest.Proofs.Payload.Line

namespace StreamRequest.Command

/-! ## Descriptions -/

/-- What stands behind the event: its size, if it was cut. -/
def sizePart (event : Bytes) : String :=
  if shownBytes < event.length then ", size=" ++ Decimal.natText event.length else ""

theorem describe_publish (stream : String) (event : Bytes) :
    describe (.publish stream event) =
      "PublishCommand(stream=" ++ Quoted.quote stream ++ ", event=" ++
        Payload.format (some shownBytes) event ++ sizePart event ++ ")" := by
  apply String.toList_inj.1
  by_cases h : shownBytes < event.length
  · simp [describe, listFields, fields, className, sizePart, h]
  · simp [describe, listFields, fields, className, sizePart, h]

theorem describe_subscribe (stream : String) (offset : Int) :
    describe (.subscribe stream offset) =
      "SubscribeCommand(stream=" ++ Quoted.quote stream ++ ", from=" ++ Decimal.intText offset ++
        ")" := by
  apply String.toList_inj.1
  simp [describe, listFields, fields, className]

/-- Two sizes are alike if neither event was cut, or if both were and have the same length. -/
theorem sizePart_eq_iff {event other : Bytes} :
    sizePart event = sizePart other ↔
      event.length ≤ shownBytes ∧ other.length ≤ shownBytes ∨
        shownBytes < event.length ∧ event.length = other.length := by
  have hcut : ∀ n, ", size=" ++ Decimal.natText n ≠ "" := by
    intro n h
    have hl := congrArg String.toList h
    rw [String.toList_append] at hl
    exact absurd hl (List.cons_ne_nil _ _)
  unfold sizePart
  split <;> split
  · rename_i he ho
    rw [String.append_right_inj, Decimal.natText_inj]
    omega
  · rename_i he ho
    refine iff_of_false (hcut _) ?_
    omega
  · rename_i he ho
    refine iff_of_false (hcut _).symm ?_
    omega
  · rename_i he ho
    refine iff_of_true rfl ?_
    omega

/-! ## Descriptions of one class -/

/-- Two events that are both cut and shown alike, with the same size. -/
structure CutAlike (event other : Bytes) : Prop where
  cut : 64 < event.length
  sameLength : event.length = other.length
  sameView : Payload.view (some 64) event = Payload.view (some 64) other

theorem describe_publish_eq_iff {stream stream' : String} {event event' : Bytes} :
    describe (.publish stream event) = describe (.publish stream' event') ↔
      stream = stream' ∧ (event = event' ∨ CutAlike event event') := by
  rw [describe_publish, describe_publish]
  constructor
  · intro h
    simp only [String.append_assoc, String.append_right_inj] at h
    obtain ⟨rfl, hevent⟩ := Quoted.quote_cancel h
    obtain ⟨hview, hsize⟩ := Payload.View.line_cancel ((String.append_right_inj _).1 hevent)
    refine ⟨rfl, ?_⟩
    rcases sizePart_eq_iff.1 ((String.append_left_inj _).1 hsize) with ⟨he, he'⟩ | ⟨hcut, hlength⟩
    · rw [Payload.view_of_le fun _ hm => by cases hm; omega,
        Payload.view_of_le fun _ hm => by cases hm; omega] at hview
      exact .inl (Payload.whole_injective hview)
    · exact .inr ⟨hcut, hlength, hview⟩
  · intro h
    obtain ⟨rfl, rfl | h⟩ := h
    · rfl
    · have hview : Payload.view (some shownBytes) event = Payload.view (some shownBytes) event' :=
        h.sameView
      rw [Payload.format, Payload.format, hview, sizePart_eq_iff.2 (.inr ⟨h.cut, h.sameLength⟩)]

theorem describe_subscribe_eq_iff {stream stream' : String} {offset offset' : Int} :
    describe (.subscribe stream offset) = describe (.subscribe stream' offset') ↔
      stream = stream' ∧ offset = offset' := by
  rw [describe_subscribe, describe_subscribe]
  constructor
  · intro h
    simp only [String.append_assoc, String.append_right_inj] at h
    obtain ⟨rfl, hoffset⟩ := Quoted.quote_cancel h
    rw [String.append_right_inj, String.append_left_inj, Decimal.intText_inj] at hoffset
    exact ⟨rfl, hoffset⟩
  · intro h
    obtain ⟨rfl, rfl⟩ := h
    rfl

theorem describe_publish_ne_subscribe (stream stream' : String) (event : Bytes) (offset : Int) :
    describe (.publish stream event) ≠ describe (.subscribe stream' offset) := by
  intro h
  have hl := congrArg String.toList h
  simp only [describe_publish, describe_subscribe, String.toList_append, List.append_assoc] at hl
  exact absurd (List.cons.inj hl).1 (by decide)

/-! ## Commands -/

/-- **What a description tells.** Two commands are described alike exactly if they are the same, or
publish to the same stream two events of the same length that are both cut and shown alike. -/
theorem describe_eq_iff (c d : Command) :
    c.describe = d.describe ↔ c = d ∨ ∃ stream event other,
      c = .publish stream event ∧ d = .publish stream other ∧ CutAlike event other := by
  constructor
  · intro h
    cases c <;> cases d
    case publish.publish stream event stream' event' =>
      obtain ⟨rfl, rfl | hcut⟩ := describe_publish_eq_iff.1 h
      · exact .inl rfl
      · exact .inr ⟨stream, event, event', rfl, rfl, hcut⟩
    case publish.subscribe => exact absurd h (describe_publish_ne_subscribe _ _ _ _)
    case subscribe.publish => exact absurd h.symm (describe_publish_ne_subscribe _ _ _ _)
    case subscribe.subscribe =>
      obtain ⟨rfl, rfl⟩ := describe_subscribe_eq_iff.1 h
      exact .inl rfl
  · intro h
    obtain rfl | ⟨stream, event, other, rfl, rfl, hcut⟩ := h
    · rfl
    · exact describe_publish_eq_iff.2 ⟨rfl, .inr hcut⟩

-- The byte behind the cut is not shown.
example : CutAlike (List.replicate 65 0x61) (List.replicate 64 0x61 ++ [0x62]) :=
  ⟨by decide, by decide, by decide⟩

end StreamRequest.Command
