/-
The escaped line of a request holds all of its bytes.

Every request has a wire form (`encode_request`). The line that shows it is
printable ASCII, so nothing of it is taken out when it is printed
(`printed_escaped`), and its escapes undo. Lines that are the same are those of
the same wire form, and that is of one request only.
-/
import StreamRequest.Proofs.CommandLine.Run
import StreamRequest.Proofs.Text.Unescape
import StreamRequest.Proofs.Value.UniqueWire

namespace StreamRequest

theorem Value.encodeAll_bulk (arguments : List Bytes) :
    ∃ data, encodeAll (arguments.map .bulk) = .ok data := by
  induction arguments with
  | nil => exact ⟨[], rfl⟩
  | cons argument rest ih =>
    obtain ⟨data, hd⟩ := ih
    exact ⟨_, by rw [List.map_cons, encodeAll, encode, hd]⟩

/-- No argument keeps a request from being written. -/
theorem Value.encode_request (arguments : List Bytes) :
    ∃ data, (Value.request arguments).encode = .ok data := by
  obtain ⟨data, hd⟩ := encodeAll_bulk arguments
  exact ⟨_, by rw [request, encode, hd]⟩

theorem Value.request_injective {as bs : List Bytes} (h : request as = request bs) : as = bs :=
  (List.map_inj_right fun _ _ e => Value.bulk.inj e).1 (Value.array.inj h)

namespace CommandLine

open EscapedBytes (IsPlain)

theorem printed_escaped (data : Bytes) :
    printed (EscapedBytes.text data) = EscapedBytes.text data ++ "\n" := by
  refine printed_of_not_mem fun hm => ?_
  rw [EscapedBytes.text, String.toList_ofList] at hm
  exact absurd (EscapedBytes.isPlain_of_mem_escape hm) (by decide)

theorem run_wire {env : Environment} {settings : Settings}
    (hs : Settings.read env = .ok settings) (raw : Bool) {arguments : List Bytes}
    (hne : arguments ≠ []) :
    run env (encodeLine raw false arguments) = .done (showWire raw arguments) :=
  run_encodeLine hs raw false hne

theorem showWire_escaped {arguments : List Bytes} {data : Bytes}
    (h : (Value.request arguments).encode = .ok data) :
    showWire false arguments = ⟨0, Utf8.ofText (EscapedBytes.text data ++ "\n"), ""⟩ := by
  have hp := printed_escaped data
  simp only [showWire, h, success, printedAll, List.map_cons, List.map_nil, hp]
  rfl

/-- **The escaped line loses nothing.** It is printable ASCII, and undoing its escapes gives the
bytes that the raw output has, which are the wire form of the request. So requests with other
arguments have other lines. -/
theorem encodeLine_is_lossless :
    (∀ {env : Environment} {settings : Settings} {arguments : List Bytes},
      Settings.read env = .ok settings → arguments ≠ [] →
        ∃ line data, (Value.request arguments).encode = .ok data ∧
          run env (encodeLine true false arguments) = .done ⟨0, data, ""⟩ ∧
          run env (encodeLine false false arguments) =
            .done ⟨0, Utf8.ofText (line ++ "\n"), ""⟩ ∧
          (∀ c ∈ line.toList, IsPlain c) ∧ EscapedBytes.unescape line.toList = some data) ∧
    ∀ {env env' : Environment} {settings settings' : Settings} {arguments arguments' : List Bytes}
      {outcome outcome' : Outcome},
      Settings.read env = .ok settings → Settings.read env' = .ok settings' →
        arguments ≠ [] → arguments' ≠ [] →
        run env (encodeLine false false arguments) = .done outcome →
        run env' (encodeLine false false arguments') = .done outcome' →
        outcome.output = outcome'.output → arguments = arguments' := by
  refine ⟨fun {env settings arguments} hs hne => ?_, ?_⟩
  · obtain ⟨data, hd⟩ := Value.encode_request arguments
    refine ⟨EscapedBytes.text data, data, hd, ?_, ?_, ?_, ?_⟩
    · rw [run_wire hs true hne]
      simp only [showWire, hd, if_true]
    · rw [run_wire hs false hne, showWire_escaped hd]
    · rw [EscapedBytes.text, String.toList_ofList]
      exact fun c hc => EscapedBytes.isPlain_of_mem_escape hc
    · rw [EscapedBytes.text, String.toList_ofList]
      exact EscapedBytes.unescape_escape data
  · intro env env' settings settings' arguments arguments' outcome outcome' hs hs' hne hne' hr hr' ho
    obtain ⟨data, hd⟩ := Value.encode_request arguments
    obtain ⟨data', hd'⟩ := Value.encode_request arguments'
    rw [run_wire hs false hne, showWire_escaped hd] at hr
    rw [run_wire hs' false hne', showWire_escaped hd'] at hr'
    obtain rfl := Result.done.inj hr
    obtain rfl := Result.done.inj hr'
    have hline := Utf8.ofText_injective ho
    have hdata : data = data' := by
      have := congrArg String.toList hline
      rw [String.toList_append, String.toList_append] at this
      exact EscapedBytes.text_injective (String.toList_inj.1 (List.append_cancel_right this))
    rw [← hdata] at hd'
    exact Value.request_injective
      (Value.encode_cancel _ hd hd' (a := []) (b := []) rfl).1

/-- Both quotation marks and a backslash in one argument, and bytes that are no text in the other,
with and without a variable that is set. -/
theorem encodeLine_is_lossless_quotes :
    let env : Environment := ⟨none, none⟩
    let env' : Environment := ⟨some "notset", some "json"⟩
    let settings : Settings := ⟨.ofText "WARNING", .table⟩
    let settings' : Settings := ⟨.ofText "NOTSET", .json⟩
    let arguments := [Utf8.ofText "\\x41'\"", [0x0A, 0xFF]]
    Settings.read env = .ok settings ∧ Settings.read env' = .ok settings' ∧ arguments ≠ [] ∧
      (∃ line data, (Value.request arguments).encode = .ok data ∧
        run env (encodeLine true false arguments) = .done ⟨0, data, ""⟩ ∧
        run env (encodeLine false false arguments) = .done ⟨0, Utf8.ofText (line ++ "\n"), ""⟩ ∧
        (∀ c ∈ line.toList, IsPlain c) ∧ EscapedBytes.unescape line.toList = some data) ∧
      run env (encodeLine false false arguments) = .done (showWire false arguments) ∧
      run env' (encodeLine false false arguments) = .done (showWire false arguments) ∧
      arguments = arguments := by
  intro env env' settings settings' arguments
  have hs : Settings.read env = .ok settings := by decide
  have hs' : Settings.read env' = .ok settings' := by decide
  have hne : arguments ≠ [] := by simp [arguments]
  have hr := run_wire hs false hne
  have hr' := run_wire hs' false hne
  exact ⟨hs, hs', hne, encodeLine_is_lossless.1 hs hne, hr, hr',
    encodeLine_is_lossless.2 hs hs' hne hne hr hr' rfl⟩

end CommandLine

end StreamRequest
