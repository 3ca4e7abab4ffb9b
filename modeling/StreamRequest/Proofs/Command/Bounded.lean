/-
What is shown of an event is short, and fit for a line of a log.

A description and a table both show 64 bytes of an event, in at most 320 characters
(`length_shown_le`). The table cuts these to its column (`length_eventColumn_le`). They are
printable, so the column is printed to the letter, and no control character is among
those of a description.
-/
import StreamRequest.Proofs.Command.Unambiguous
import StreamRequest.Proofs.CommandLine.Parse
import StreamRequest.Proofs.Payload.Bounded

namespace StreamRequest

open Printable (All IsControl isPrintable)

/-! ## Cuts -/

namespace Cut

theorem length_shorten_le {most : Nat} (h : 3 ≤ most) (text : String) :
    (shorten most text).length ≤ most := by
  unfold shorten
  simp only
  split
  · rename_i hle
    rw [← String.length_toList]
    exact Int.ofNat_le.1 hle
  · have hkeep : keep ((most : Int) - 3) text.toList = text.toList.take (most - 3) := by
      rw [← keep_natCast, Int.ofNat_sub h]
      rfl
    have hdots : ellipsis.length = 3 := by decide
    rw [String.length_append, String.length_ofList, hkeep, hdots, List.length_take]
    omega

theorem all_printable_shorten {text : String} (h : All text.toList) (most : Int) :
    All (shorten most text).toList := by
  have hdots : All ellipsis.toList := by decide
  unfold shorten
  simp only
  split
  · exact h
  · refine All.toList_append (fun c hc => ?_) hdots
    rw [String.toList_ofList] at hc
    exact h c (List.mem_of_mem_take hc)

end Cut

/-! ## Descriptions -/

namespace Command

open CommandLine (eventColumn parseLine printed printedAll run showCommand spelledArguments)

theorem length_sizePart_le (event : Bytes) :
    (sizePart event).length ≤ 7 + (Decimal.natText event.length).length := by
  unfold sizePart
  split
  · rw [String.length_append]
    exact Nat.le_refl _
  · exact Nat.zero_le _

/-- However long an event is, it takes at most 320 characters. -/
theorem length_shown_le (event : Bytes) :
    (Payload.format (some shownBytes) event).length ≤ 320 :=
  Payload.length_format_le (by decide) event

theorem length_describe_publish_le (stream : String) (event : Bytes) :
    (describe (.publish stream event)).length ≤
      (Quoted.quote stream).length + 358 + (Decimal.natText event.length).length := by
  have hshown := length_shown_le event
  have hsize := length_sizePart_le event
  have hclass : "PublishCommand(stream=".length = 22 := by decide
  have hevent : ", event=".length = 8 := by decide
  have hclose : ")".length = 1 := by decide
  simp only [describe_publish, String.length_append, hclass, hevent, hclose]
  omega

/-! ## Tables -/

theorem length_eventColumn_le (event : Bytes) : (eventColumn event).length ≤ 80 :=
  Cut.length_shorten_le (by decide) _

theorem all_printable_eventColumn (event : Bytes) : All (eventColumn event).toList :=
  Cut.all_printable_shorten (Payload.all_printable_format _ event) _

/-- Of a table only the stream may hold what is not printed as it is. -/
theorem printed_table_publish (stream : String) (event : Bytes) :
    printedAll (showCommand (.publish stream event) .table) =
      "Command:  publish\n" ++ printed ("Stream:   " ++ stream) ++
        ("Event:    " ++ eventColumn event ++ "\n") ++
        ("Size:     " ++ Decimal.natText event.length ++ " bytes\n") := by
  have hname : printed "Command:  publish" = "Command:  publish\n" := by decide
  have hevent : printed ("Event:    " ++ eventColumn event) =
      "Event:    " ++ eventColumn event ++ "\n" := by
    have hlabel : All "Event:    ".toList := by decide
    exact CommandLine.printed_of_printable (hlabel.toList_append (all_printable_eventColumn event))
  have hsize : printed ("Size:     " ++ Decimal.natText event.length ++ " bytes") =
      "Size:     " ++ Decimal.natText event.length ++ " bytes\n" := by
    have hlabel : All "Size:     ".toList := by decide
    have hunit : All " bytes".toList := by decide
    rw [CommandLine.printed_of_printable
      ((hlabel.toList_append (all_printable_natText event.length)).toList_append hunit),
      String.append_assoc]
    rfl
  show String.join [printed "Command:  publish", printed ("Stream:   " ++ stream),
    printed ("Event:    " ++ eventColumn event),
    printed ("Size:     " ++ Decimal.natText event.length ++ " bytes")] = _
  rw [hname, hevent, hsize]
  simp only [String.join_cons, String.join_nil, String.append_empty, String.append_assoc]

/-! ## Events of any length -/

/-- **What is shown of an event is bounded and fit for a log**, however long the event is. In a
description it takes at most 320 characters, and with it the description exceeds the quoted stream
by no more than a constant and the digits of its size. Wherever a request to publish is shown as a
table, it takes at most 80. And no description of a command holds a control character, nor any other
that is not printable. -/
theorem shown_event_is_bounded :
    (∀ stream event,
      describe (.publish stream event) =
        "PublishCommand(stream=" ++ Quoted.quote stream ++ ", event=" ++
          Payload.format (some shownBytes) event ++ sizePart event ++ ")" ∧
      (Payload.format (some shownBytes) event).length ≤ 320 ∧
      (describe (.publish stream event)).length ≤
        (Quoted.quote stream).length + 358 + (Decimal.natText event.length).length) ∧
    (∀ {env : Environment} {settings : Settings} {format : Option OutputFormat} {hex : Bool}
      {operands arguments : List Bytes} {stream : String} {event : Bytes},
      Settings.read env = .ok settings → format.getD settings.format = .table →
      spelledArguments hex operands = .ok arguments →
      Request.decode (.request arguments) = .ok (.publish stream event) →
        (eventColumn event).length ≤ 80 ∧
        ∃ log, run env (parseLine format hex operands) = .done ⟨0, Utf8.ofText
          ("Command:  publish\n" ++ printed ("Stream:   " ++ stream) ++
            ("Event:    " ++ eventColumn event ++ "\n") ++
            ("Size:     " ++ Decimal.natText event.length ++ " bytes\n")), log⟩) ∧
    ∀ c : Command, ∀ ch ∈ c.describe.toList, isPrintable ch = true ∧ ¬IsControl ch := by
  refine ⟨fun stream event => ⟨describe_publish stream event, length_shown_le event,
    length_describe_publish_le stream event⟩, ?_, fun c ch hc => ?_⟩
  · intro env settings format hex operands arguments stream event hs hformat ha hd
    refine ⟨length_eventColumn_le event, ?_⟩
    rw [← printed_table_publish, ← hformat]
    exact CommandLine.run_parseLine_of_decode hs ha hd format
  · exact ⟨c.all_printable_describe ch hc, c.all_printable_describe.not_isControl ch hc⟩

/-- A long event that is no text, for a stream with a line break in its name, on a line that asks
for a table against the settings. -/
theorem shown_event_is_bounded_listing :
    let env : Environment := ⟨none, some "json"⟩
    let settings : Settings := ⟨.ofText "WARNING", .json⟩
    let event : Bytes := List.replicate 65 0xFF
    let arguments := [Utf8.ofText "publish", Utf8.ofText "a\nb", event]
    Settings.read env = .ok settings ∧ (some .table).getD settings.format = .table ∧
      spelledArguments false arguments = .ok arguments ∧
      Request.decode (.request arguments) = .ok (.publish "a\nb" event) ∧
      (eventColumn event).length ≤ 80 ∧
      ∃ log, run env (parseLine (some .table) false arguments) = .done ⟨0, Utf8.ofText
        ("Command:  publish\n" ++ printed ("Stream:   " ++ "a\nb") ++
          ("Event:    " ++ eventColumn event ++ "\n") ++
          ("Size:     " ++ Decimal.natText event.length ++ " bytes\n")), log⟩ := by
  intro env settings event arguments
  have hs : Settings.read env = .ok settings := by decide
  have hd : Request.decode (.request arguments) = .ok (.publish "a\nb" event) := by decide
  exact ⟨hs, rfl, rfl, hd, shown_event_is_bounded.2.1 hs rfl rfl hd⟩

end Command

end StreamRequest
