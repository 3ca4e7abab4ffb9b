/-
A table shows a field to a line.

Each field of a command is printed on a row of its own, its value without the control
sequences in it (`printed_table`). Names, numbers and what is shown of an event are
printable, so of these rows only that of the stream can have a line feed, and it has as
many as the stream (`count_rows`). A stream with none leaves a line for each field;
any other puts lines of its own among them.
-/
import StreamRequest.Proofs.Command.Bounded
import StreamRequest.Proofs.CommandLine.Level
import StreamRequest.Proofs.Text.Lines

namespace StreamRequest

open Printable (All)

/-! ## Fields -/

/-- The stream that a command names. -/
def Command.stream : Command → String
  | .publish stream _ => stream
  | .subscribe stream _ => stream

/-- The fields that a table shows of a command, each with its label. -/
def Command.tableFields : Command → List (String × String)
  | .publish stream event =>
    [("Command", publishName), ("Stream", stream), ("Event", CommandLine.eventColumn event),
      ("Size", Decimal.natText event.length ++ " bytes")]
  | .subscribe stream offset =>
    [("Command", subscribeName), ("Stream", stream),
      ("From", if offset = tail then "tail" else Decimal.intText offset)]

namespace CommandLine

/-- A label with a colon, as wide as the column of labels. -/
def labelColumn (label : String) : String :=
  .ofList ((label.toList ++ [':']).rightpad 10 ' ')

/-- A field as its row is printed, without the end of the line. -/
def tableRow (field : String × String) : String :=
  labelColumn field.1 ++ ControlSequence.strip field.2

theorem tableLines_eq (c : Command) :
    tableLines c = c.tableFields.map fun field => labelColumn field.1 ++ field.2 := by
  have hcommand : labelColumn "Command" = "Command:  " := by decide
  have hstream : labelColumn "Stream" = "Stream:   " := by decide
  have hevent : labelColumn "Event" = "Event:    " := by decide
  have hsize : labelColumn "Size" = "Size:     " := by decide
  have hfrom : labelColumn "From" = "From:     " := by decide
  cases c with
  | publish stream event =>
    simp [tableLines, Command.tableFields, Command.name, hcommand, hstream, hevent, hsize,
      String.append_assoc]
  | subscribe stream offset =>
    simp [tableLines, Command.tableFields, Command.name, hcommand, hstream, hfrom]

theorem all_printable_labelColumn (c : Command) :
    ∀ field ∈ c.tableFields, All (labelColumn field.1).toList := by
  have labels : ∀ label ∈ ["Command", "Stream", "Event", "Size", "From"],
      All (labelColumn label).toList := by decide
  intro field hf
  refine labels field.1 ?_
  cases c <;> simp only [Command.tableFields, List.mem_cons, List.not_mem_nil, or_false] at hf <;>
    rcases hf with rfl | rfl | rfl | rfl <;> simp

/-- Each field is printed on a row of its own, and only its value is stripped. -/
theorem printed_table (c : Command) :
    printedAll (showCommand c .table) =
      String.join ((c.tableFields.map tableRow).map (· ++ "\n")) := by
  rw [printedAll, showCommand, tableLines_eq, List.map_map, List.map_map]
  refine congrArg String.join (List.map_congr_left fun field hf => ?_)
  have hlabel := (all_printable_labelColumn c field hf).not_mem (c := ControlSequence.escapeMark)
    (by decide)
  rw [Function.comp_apply, Function.comp_apply, printed_eq, ControlSequence.strip_append hlabel]
  rfl

/-! ## Line feeds -/

theorem count_lineFeed_of_printable {text : List Char} (h : All text) : text.count '\n' = 0 :=
  List.count_eq_zero.2 (h.not_mem (by decide))

/-- Of the fields only the stream can have line feeds. -/
theorem count_tableFields (c : Command) :
    (c.tableFields.flatMap fun field => field.2.toList).count '\n' =
      c.stream.toList.count '\n' := by
  cases c with
  | publish stream event =>
    have hname : Command.publishName.toList.count '\n' = 0 := by decide
    have hevent := count_lineFeed_of_printable (Command.all_printable_eventColumn event)
    have hunit : All " bytes".toList := by decide
    have hsize := count_lineFeed_of_printable
      ((all_printable_natText event.length).toList_append hunit)
    simp only [Command.tableFields, Command.stream, List.flatMap_cons, List.flatMap_nil,
      List.count_append, List.count_nil, hname, hevent, hsize, Nat.zero_add, Nat.add_zero]
  | subscribe stream offset =>
    have hname : Command.subscribeName.toList.count '\n' = 0 := by decide
    have hfrom : (if offset = Command.tail then "tail" else Decimal.intText offset).toList.count
        '\n' = 0 := by
      split
      · decide
      · exact count_lineFeed_of_printable (all_printable_intText offset)
    simp only [Command.tableFields, Command.stream, List.flatMap_cons, List.flatMap_nil,
      List.count_append, List.count_nil, hname, hfrom, Nat.zero_add, Nat.add_zero]

theorem count_tableRows {fields : List (String × String)}
    (h : ∀ field ∈ fields, All (labelColumn field.1).toList) :
    ((fields.map tableRow).flatMap String.toList).count '\n' =
      (fields.flatMap fun field => field.2.toList).count '\n' := by
  induction fields with
  | nil => rfl
  | cons field fields ih =>
    have hlabel := count_lineFeed_of_printable (h field List.mem_cons_self)
    rw [List.map_cons, List.flatMap_cons, List.flatMap_cons, List.count_append, List.count_append,
      ih fun other ho => h other (List.mem_cons_of_mem _ ho), tableRow, String.toList_append,
      List.count_append, hlabel, ControlSequence.count_strip, Nat.zero_add]

theorem count_rows (c : Command) :
    ((c.tableFields.map tableRow).flatMap String.toList).count '\n' =
      c.stream.toList.count '\n' := by
  rw [count_tableRows (all_printable_labelColumn c), count_tableFields]

theorem lineFeed_not_mem_rows {c : Command} (h : '\n' ∉ c.stream.toList) :
    ∀ row ∈ c.tableFields.map tableRow, '\n' ∉ row.toList := by
  intro row hr hm
  have hcount := count_rows c
  rw [List.count_eq_zero.2 h] at hcount
  exact List.count_eq_zero.1 hcount (List.mem_flatMap.2 ⟨row, hr, hm⟩)

/-! ## Tables -/

/-- **A table has a line for each field**, in their order, exactly if there is no line feed in the
stream, whatever else the stream and the event hold. That is four lines for a request to publish and
three for one to subscribe. In general the line feeds of the stream add as many lines. -/
theorem table_has_line_for_each_field {env : Environment} {args arguments : List Bytes}
    {c : Command} (hshows : Shows env args .table arguments)
    (hd : Request.decode (.request arguments) = .ok c) :
    ∃ output log, run env args = .done ⟨0, output, log⟩ ∧
      (Bytes.lines output = (c.tableFields.map tableRow).map Utf8.ofText ↔
        '\n' ∉ c.stream.toList) ∧
      (Bytes.lines output).length = c.tableFields.length + c.stream.toList.count '\n' := by
  obtain ⟨log, hrun⟩ := run_of_decode hshows hd
  rw [printed_table] at hrun
  have hlength := Bytes.length_lines_printed (c.tableFields.map tableRow)
  rw [count_rows, List.length_map] at hlength
  refine ⟨_, log, hrun, ⟨fun h => ?_, fun h => ?_⟩, hlength⟩
  · rw [h, List.length_map, List.length_map] at hlength
    exact List.count_eq_zero.1 (by omega)
  · exact Bytes.lines_printed (lineFeed_not_mem_rows h)

/-- An event that tries to add a row, for a stream that tries to take the place of one, on a line
that asks for a table against the settings. -/
theorem table_has_line_for_each_field_event :
    let env : Environment := ⟨none, some "json"⟩
    let stream := "\x1b[2JSize:     0 bytes\r"
    let event := Utf8.ofText "\nSize:     0 bytes\n"
    let arguments := [Utf8.ofText "publish", Utf8.ofText stream, event]
    let args := levelWords "error" ++ Utf8.ofText "parse" :: Utf8.ofText "-ftable" :: arguments
    Shows env args .table arguments ∧
      Request.decode (.request arguments) = .ok (.publish stream event) ∧ '\n' ∉ stream.toList ∧
      ∃ output log, run env args = .done ⟨0, output, log⟩ ∧
        Bytes.lines output = ["Command:  publish", "Stream:   Size:     0 bytes\r",
          "Event:    '\\nSize:     0 bytes\\n'", "Size:     19 bytes"].map Utf8.ofText := by
  intro env stream event arguments args
  have hs : Settings.read env = .ok ⟨.ofText "WARNING", .json⟩ := by decide
  have hlevel : Settings.severity ⟨.ofText "ERROR", .json⟩ = .ok 40 := by decide
  have hwords : readWords (some .parse) Subcommand.parse.options true
      (Utf8.ofText "-ftable" :: arguments) =
        .ok ⟨[(formatOption, Utf8.ofText "table")], arguments⟩ := by decide
  have hshows : Shows env args .table arguments :=
    .intro (read_levelled "error" .parse _) hs hlevel hwords rfl rfl
  have hd : Request.decode (.request arguments) = .ok (.publish stream event) := by decide
  have hfeed : '\n' ∉ stream.toList := by decide
  obtain ⟨output, log, hrun, hlines, -⟩ := table_has_line_for_each_field hshows hd
  refine ⟨hshows, hd, hfeed, output, log, hrun, ?_⟩
  rw [hlines.2 hfeed]
  decide

/-- A stream with a line feed forges a row, and the table of five lines has two sizes. -/
theorem stream_forges_table_row :
    let env : Environment := ⟨none, none⟩
    let stream := "a\nSize:     0 bytes"
    let arguments := [Utf8.ofText "publish", Utf8.ofText stream, Utf8.ofText "x"]
    let rows := ["Command:  publish", "Stream:   a", "Size:     0 bytes", "Event:    'x'",
      "Size:     1 bytes"]
    Shows env (parseLine none false arguments) .table arguments ∧
      Request.decode (.request arguments) = .ok (.publish stream (Utf8.ofText "x")) ∧
      ∃ output log, run env (parseLine none false arguments) = .done ⟨0, output, log⟩ ∧
        Bytes.lines output = rows.map Utf8.ofText := by
  intro env stream arguments rows
  have hs : Settings.read env = .ok .standard := by decide
  have hshows : Shows env (parseLine none false arguments) .table arguments :=
    shows_parseLine hs rfl none
  have hd : Request.decode (.request arguments) = .ok (.publish stream (Utf8.ofText "x")) := by
    decide
  have hprinted : printedAll (showCommand (.publish stream (Utf8.ofText "x")) .table) =
      String.join (rows.map (· ++ "\n")) := by decide
  have hrows : ∀ row ∈ rows, '\n' ∉ row.toList := by decide
  obtain ⟨log, hrun⟩ := run_of_decode hshows hd
  rw [hprinted] at hrun
  exact ⟨hshows, hd, _, log, hrun, Bytes.lines_printed hrows⟩

end CommandLine

end StreamRequest
