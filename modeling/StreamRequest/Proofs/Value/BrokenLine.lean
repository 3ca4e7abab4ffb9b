/-
Which value of a tree has no wire form, and so keeps the whole tree from having
one.

The values of a tree are put in a row, each before those in it (`nodes`). Writing
goes along the row and fails at the first status or error that has no line
(`fault?_encode`): an array fails where its items do, and items fail where the
first of them does or else the others. Nothing else in the row can fail. A line
may be missing for two reasons (`textLine_eq_error_iff`), a line break in the
text or surrogates, and only the first is told with the kind of the value; so
failing at the first line break is a property that not every value has
(`FailsAtFirstBreak`).
-/
import StreamRequest.Proofs.Results
import StreamRequest.Proofs.Text.CodeText
import StreamRequest.Value.Wire

namespace StreamRequest.Value

/-! ## Values in a tree -/

/-- A value stands in another if it is that value, or stands in an item of it. -/
inductive Within (node : Value) : Value → Prop where
  | self : Within node node
  | item {items : List Value} {item : Value} (hm : item ∈ items) (h : Within node item) :
    Within node (.array items)

mutual

/-- The values that stand in a value other than itself, each before those that stand in it. -/
def inner : Value → List Value
  | .array items => nodesAll items
  | _ => []

/-- Values, and those that stand in each of them behind it. -/
def nodesAll : List Value → List Value
  | [] => []
  | item :: rest => item :: (inner item ++ nodesAll rest)

end

/-- A value and all that stand in it, in a row. -/
def nodes (v : Value) : List Value :=
  v :: inner v

@[simp] theorem nodesAll_cons (item : Value) (rest : List Value) :
    nodesAll (item :: rest) = nodes item ++ nodesAll rest := rfl

theorem mem_nodesAll_iff {node : Value} {items : List Value} :
    node ∈ nodesAll items ↔ ∃ item ∈ items, node ∈ nodes item := by
  induction items with
  | nil => simp [nodesAll]
  | cons item rest ih => simp [ih]

mutual

theorem within_of_mem_inner {node : Value} : ∀ {v : Value}, node ∈ inner v → Within node v
  | .array _, h => by
    obtain ⟨item, hm, hw⟩ := within_of_mem_nodesAll h
    exact .item hm hw

theorem within_of_mem_nodesAll {node : Value} : ∀ {items : List Value}, node ∈ nodesAll items →
    ∃ item ∈ items, Within node item
  | item :: rest, h => by
    rcases List.mem_cons.1 h with rfl | h
    · exact ⟨node, List.mem_cons_self, .self⟩
    rcases List.mem_append.1 h with h | h
    · exact ⟨item, List.mem_cons_self, within_of_mem_inner h⟩
    · obtain ⟨other, hm, hw⟩ := within_of_mem_nodesAll h
      exact ⟨other, List.mem_cons_of_mem _ hm, hw⟩

end

/-- The row of a value holds what stands in the value, and nothing else. -/
theorem mem_nodes_iff {node v : Value} : node ∈ nodes v ↔ Within node v := by
  refine ⟨fun h => ?_, fun h => ?_⟩
  · rcases List.mem_cons.1 h with rfl | h
    · exact .self
    · exact within_of_mem_inner h
  · induction h with
    | self => exact List.mem_cons_self
    | item hm _ ih => exact List.mem_cons_of_mem _ (mem_nodesAll_iff.2 ⟨_, hm, ih⟩)

/-! ## Values without a line -/

/-- The text of a status or an error. -/
def lineText? : Value → Option CodeText
  | .simple text | .error text => some text
  | _ => none

/-- A status or an error whose text is not one line. -/
def BreaksLine (node : Value) : Prop :=
  ∃ text, node.lineText? = some text ∧ (.char '\r' ∈ text ∨ .char '\n' ∈ text)

/-- A status or an error with a surrogate in its text. -/
def HasSurrogate (node : Value) : Prop :=
  ∃ text, node.lineText? = some text ∧ ∃ index, .surrogate index ∈ text

/-- Why a value has no line, if it is a status or an error. -/
def lineFault? (node : Value) : Option Unwritable :=
  node.lineText?.bind fun text => fault? (textLine node.kind text)
where
  fault? : Except Unwritable Bytes → Option Unwritable
    | .ok _ => none
    | .error fault => some fault

open lineFault? (fault?)

theorem fault?_eq_some_iff {x : Except Unwritable Bytes} {fault : Unwritable} :
    fault? x = some fault ↔ x = .error fault := by
  cases x <;> simp [fault?]

theorem fault?_eq_none_iff {x : Except Unwritable Bytes} :
    fault? x = none ↔ ∃ data, x = .ok data := by
  cases x <;> simp [fault?]

theorem textLine_eq_error_iff {kind : Kind} {text : CodeText} {fault : Unwritable} :
    textLine kind text = .error fault ↔
      (.char '\r' ∈ text ∨ .char '\n' ∈ text) ∧ fault = .lineBreak kind ∨
        ¬(.char '\r' ∈ text ∨ .char '\n' ∈ text) ∧
          ∃ run : Surrogates, run.FirstIn text ∧ fault = .surrogates run := by
  simp only [← CodeText.toText_eq_error_iff]
  unfold textLine
  split
  · rename_i hb
    simp [hb, eq_comm]
  · rename_i hb
    cases text.toText <;> simp [hb, eq_comm]

/-- Why a value has no line: a line break is told with the kind, and surrogates only where there is
no line break. -/
theorem lineFault?_eq_some_iff {node : Value} {fault : Unwritable} :
    lineFault? node = some fault ↔
      node.BreaksLine ∧ fault = .lineBreak node.kind ∨
        ¬node.BreaksLine ∧ ∃ text, node.lineText? = some text ∧
          ∃ run : Surrogates, run.FirstIn text ∧ fault = .surrogates run := by
  unfold lineFault? BreaksLine
  cases node.lineText? with
  | none => simp
  | some text => simp [fault?_eq_some_iff, textLine_eq_error_iff]

theorem lineFault?_eq_none_iff {node : Value} :
    lineFault? node = none ↔ ¬node.BreaksLine ∧ ¬node.HasSurrogate := by
  rw [Option.eq_none_iff_forall_ne_some]
  simp only [ne_eq, lineFault?_eq_some_iff, HasSurrogate, ← CodeText.exists_firstIn_iff]
  by_cases hb : node.BreaksLine
  · simp [hb]
  · simp only [hb, not_false_eq_true, true_and, false_and, false_or]
    exact ⟨fun h ⟨text, ht, run, hr⟩ => h _ ⟨text, ht, run, hr, rfl⟩,
      fun h _ ⟨text, ht, run, hr, _⟩ => h ⟨text, ht, run, hr⟩⟩

/-! ## Where writing fails -/

theorem fault?_array (items : List Value) :
    fault? (encode (.array items)) = fault? (encodeAll items) := by
  rw [encode]
  cases encodeAll items <;> rfl

theorem fault?_cons (item : Value) (rest : List Value) :
    fault? (encodeAll (item :: rest)) = (fault? (encode item)).or (fault? (encodeAll rest)) := by
  rw [encodeAll]
  cases encode item with
  | error fault => rfl
  | ok data => cases encodeAll rest <;> rfl

mutual

/-- Writing a value fails at the first value in it that has no line. -/
theorem fault?_encode : ∀ v : Value, fault? (encode v) = (nodes v).findSome? lineFault?
  | .simple text => by
    show _ = [Value.simple text].findSome? lineFault?
    rw [List.findSome?_singleton, encode]
    rfl
  | .error text => by
    show _ = [Value.error text].findSome? lineFault?
    rw [List.findSome?_singleton, encode]
    rfl
  | .array items => by
    rw [fault?_array, fault?_encodeAll items, nodes, List.findSome?_cons, inner]
    rfl
  | .integer _ | .bulk _ | .nullBulk | .nullArray => rfl

theorem fault?_encodeAll : ∀ items : List Value,
    fault? (encodeAll items) = (nodesAll items).findSome? lineFault?
  | [] => rfl
  | item :: rest => by
    rw [fault?_cons, fault?_encode item, fault?_encodeAll rest, nodesAll_cons,
      List.findSome?_append]

end

/-- The failure is that of the first value in the row that has no line. -/
theorem encode_eq_error_iff {v : Value} {fault : Unwritable} :
    encode v = .error fault ↔
      ∃ before node after, nodes v = before ++ node :: after ∧ lineFault? node = some fault ∧
        ∀ other ∈ before, lineFault? other = none := by
  rw [← fault?_eq_some_iff, fault?_encode, List.findSome?_eq_some_iff]

theorem exists_wire_iff {v : Value} :
    (∃ wire, encode v = .ok wire) ↔
      ∀ node, Within node v → ¬node.BreaksLine ∧ ¬node.HasSurrogate := by
  rw [← fault?_eq_none_iff, fault?_encode, List.findSome?_eq_none_iff]
  simp only [mem_nodes_iff, lineFault?_eq_none_iff]

theorem exists_fault_iff {v : Value} :
    (∃ fault, encode v = .error fault) ↔
      ∃ node, Within node v ∧ (node.BreaksLine ∨ node.HasSurrogate) := by
  have hnot : (∃ fault, encode v = .error fault) ↔ ¬∃ wire, encode v = .ok wire := by
    cases encode v <;> simp
  simp [hnot, exists_wire_iff, Classical.or_iff_not_imp_left]

theorem within_of_row {v node : Value} {before after : List Value}
    (h : nodes v = before ++ node :: after) : Within node v := by
  rw [← mem_nodes_iff, h]
  exact List.mem_append_right _ List.mem_cons_self

theorem kind_of_lineText? {node : Value} {text : CodeText} (h : node.lineText? = some text) :
    node.kind = .simple ∨ node.kind = .error := by
  cases node with
  | simple | error => simp [kind]
  | integer | bulk | nullBulk | array | nullArray => cases h

theorem exists_wire_of_kinds {v : Value}
    (h : ∀ node, Within node v → node.kind ≠ .simple ∧ node.kind ≠ .error) :
    ∃ wire, encode v = .ok wire := by
  have hnone : ∀ {node text}, Within node v → node.lineText? ≠ some text := by
    intro node text hw ht
    exact (kind_of_lineText? ht).elim (h node hw).1 (h node hw).2
  refine exists_wire_iff.2 fun node hw => ⟨?_, ?_⟩
  · rintro ⟨text, ht, -⟩
    exact hnone hw ht
  · rintro ⟨text, ht, -⟩
    exact hnone hw ht

/-! ## Line breaks alone -/

/-- The failure tells that the text of a node, a status or an error, is not one line. -/
def NamesKind (fault : Unwritable) (node : Value) : Prop :=
  fault.className = "ValueError" ∧
    ((∃ text, node = .simple text) ∧
        fault.message = "RESP simple_string must not contain CR or LF" ∨
      (∃ text, node = .error text) ∧ fault.message = "RESP error must not contain CR or LF")

theorem namesKind_of_breaksLine {node : Value} (h : node.BreaksLine) :
    NamesKind (.lineBreak node.kind) node := by
  obtain ⟨text, ht, -⟩ := h
  cases node with
  | simple text => exact ⟨rfl, .inl ⟨⟨text, rfl⟩, rfl⟩⟩
  | error text => exact ⟨rfl, .inr ⟨⟨text, rfl⟩, rfl⟩⟩
  | integer | bulk | nullBulk | array | nullArray => cases ht

/-- Writing a value fails exactly if a status or an error in it has a line break in its text, and
tells the kind of the first such value, from left to right and each array before its items. Without
statuses and errors there is nothing to fail at. -/
def FailsAtFirstBreak (v : Value) : Prop :=
  ((∃ fault, encode v = .error fault) ↔ ∃ node, Within node v ∧ node.BreaksLine) ∧
    (∀ fault, encode v = .error fault →
      ∃ before node after, nodes v = before ++ node :: after ∧
        (∀ other ∈ before, ¬other.BreaksLine) ∧ node.BreaksLine ∧ NamesKind fault node) ∧
    ((∀ node, Within node v → node.kind ≠ .simple ∧ node.kind ≠ .error) →
      ∃ wire, encode v = .ok wire)

theorem exists_first_of_error {v : Value} {fault : Unwritable} (h : encode v = .error fault) :
    ∃ before node after, nodes v = before ++ node :: after ∧
      (∀ other ∈ before, ¬other.BreaksLine ∧ ¬other.HasSurrogate) ∧
      (node.BreaksLine ∧ NamesKind fault node ∨
        ¬node.BreaksLine ∧ ∃ text, node.lineText? = some text ∧
          ∃ run : Surrogates, run.FirstIn text ∧ fault = .surrogates run) := by
  obtain ⟨before, node, after, hrow, hnode, hbefore⟩ := encode_eq_error_iff.1 h
  refine ⟨before, node, after, hrow, fun other ho => lineFault?_eq_none_iff.1 (hbefore other ho), ?_⟩
  obtain ⟨hb, rfl⟩ | hs := lineFault?_eq_some_iff.1 hnode
  · exact .inl ⟨hb, namesKind_of_breaksLine hb⟩
  · exact .inr hs

/-- Of two places in a row, one stands before the other unless they are the same. -/
theorem same_or_before {before after before' after' : List Value} {node node' : Value}
    (h : before ++ node :: after = before' ++ node' :: after') :
    node = node' ∨ node ∈ before' ∨ node' ∈ before := by
  obtain ⟨between, rfl, hb⟩ | ⟨between, rfl, hb⟩ := List.append_eq_append_iff.1 h
  · cases between with
    | nil => exact .inl (List.cons.inj hb).1
    | cons first rest =>
      obtain ⟨rfl, -⟩ := List.cons.inj hb
      exact .inr (.inl (List.mem_append_right _ List.mem_cons_self))
  · cases between with
    | nil => exact .inl (List.cons.inj hb).1.symm
    | cons first rest =>
      obtain ⟨rfl, -⟩ := List.cons.inj hb
      exact .inr (.inr (List.mem_append_right _ List.mem_cons_self))

theorem failsAtFirstBreak_of_first {v : Value}
    (first : ∀ fault, encode v = .error fault →
      ∃ before node after, nodes v = before ++ node :: after ∧
        (∀ other ∈ before, ¬other.BreaksLine) ∧ node.BreaksLine ∧ NamesKind fault node) :
    FailsAtFirstBreak v := by
  refine ⟨⟨?_, ?_⟩, first, exists_wire_of_kinds⟩
  · rintro ⟨fault, hf⟩
    obtain ⟨before, node, after, hrow, -, hb, -⟩ := first fault hf
    exact ⟨node, within_of_row hrow, hb⟩
  · rintro ⟨node, hw, hb⟩
    exact exists_fault_iff.2 ⟨node, hw, .inl hb⟩

/-- What keeps a value from failing at its first line break is a text with surrogates that comes
before. -/
theorem failsAtFirstBreak_iff {v : Value} :
    FailsAtFirstBreak v ↔
      ∀ before node after, nodes v = before ++ node :: after →
        (∀ other ∈ before, ¬other.BreaksLine) → node.HasSurrogate → node.BreaksLine := by
  constructor
  · -- The failure would have to tell the kind of a node further on, and surrogates tell none.
    intro h before node after hrow hbefore hs
    refine Classical.byContradiction fun hb => ?_
    obtain ⟨fault, hf⟩ := exists_fault_iff.2 ⟨node, within_of_row hrow, .inr hs⟩
    obtain ⟨before', first, after', hrow', hbefore', ⟨hb', -⟩ | ⟨-, text, -, run, -, rfl⟩⟩ :=
      exists_first_of_error hf
    · obtain rfl | hm | hm := same_or_before (hrow.symm.trans hrow')
      · exact hb hb'
      · exact (hbefore' _ hm).2 hs
      · exact hbefore _ hm hb'
    · obtain ⟨_, _, _, -, -, -, hclass, -⟩ := h.2.1 _ hf
      have other : Surrogates.className ≠ "ValueError" := by decide
      exact other hclass
  · intro h
    refine failsAtFirstBreak_of_first fun fault hf => ?_
    obtain ⟨before, node, after, hrow, hbefore, ⟨hb, hn⟩ | ⟨hb, text, ht, run, hr, -⟩⟩ :=
      exists_first_of_error hf
    · exact ⟨before, node, after, hrow, fun other ho => (hbefore other ho).1, hb, hn⟩
    · have hs : node.HasSurrogate := ⟨text, ht, CodeText.exists_firstIn_iff.1 ⟨run, hr⟩⟩
      exact absurd (h before node after hrow (fun other ho => (hbefore other ho).1) hs) hb

/-- **Which values have no wire form**: those in which, at any depth, a status or an error has a line
break or a surrogate in its text. The failure is that of the first such value, from left to right and
each array before its items: a line break is told with the kind of the value, and surrogates without
a line break are told by their place. So a value fails at its first line break unless a text with
surrogates and no line break comes before all line breaks. -/
theorem encode_fails_at_first_unwritable (v : Value) :
    (FailsAtFirstBreak v ↔
      ∀ before node after, nodes v = before ++ node :: after →
        (∀ other ∈ before, ¬other.BreaksLine) → node.HasSurrogate → node.BreaksLine) ∧
    ((∃ fault, encode v = .error fault) ↔
      ∃ node, Within node v ∧ (node.BreaksLine ∨ node.HasSurrogate)) ∧
    (∀ fault, encode v = .error fault →
      ∃ before node after, nodes v = before ++ node :: after ∧
        (∀ other ∈ before, ¬other.BreaksLine ∧ ¬other.HasSurrogate) ∧
        (node.BreaksLine ∧ NamesKind fault node ∨
          ¬node.BreaksLine ∧ ∃ text, node.lineText? = some text ∧
            ∃ run : Surrogates, run.FirstIn text ∧ fault = .surrogates run)) ∧
    ((∀ node, Within node v → node.kind ≠ .simple ∧ node.kind ≠ .error) →
      ∃ wire, encode v = .ok wire) :=
  ⟨failsAtFirstBreak_iff, exists_fault_iff, fun _ => exists_first_of_error, exists_wire_of_kinds⟩

/-- A broken error within an array, behind bytes that hold a line end and before a broken status and
surrogates; and those bytes with a null behind them. -/
theorem encode_fails_at_first_unwritable_within :
    let v := Value.array
      [.bulk [0x0D, 0x0A], .array [.integer 7, .error "a\nb"], .simple "\r", .error [.surrogate 0]]
    let w := Value.array [.bulk [0x0D, 0x0A], .nullArray]
    encode v = .error (.lineBreak .error) ∧
      (∃ before node after, nodes v = before ++ node :: after ∧
        (∀ other ∈ before, ¬other.BreaksLine ∧ ¬other.HasSurrogate) ∧
        (node.BreaksLine ∧ NamesKind (.lineBreak .error) node ∨
          ¬node.BreaksLine ∧ ∃ text, node.lineText? = some text ∧
            ∃ run : Surrogates, run.FirstIn text ∧ Unwritable.lineBreak .error = .surrogates run)) ∧
      (∀ node, Within node w → node.kind ≠ .simple ∧ node.kind ≠ .error) ∧
      ∃ wire, encode w = .ok wire := by
  intro v w
  have hv : encode v = .error (.lineBreak .error) := by decide
  have hw : ∀ node, Within node w → node.kind ≠ .simple ∧ node.kind ≠ .error := by
    intro node h
    revert node
    simp only [← mem_nodes_iff]
    decide
  exact ⟨hv, (encode_fails_at_first_unwritable v).2.2.1 _ hv, hw,
    (encode_fails_at_first_unwritable w).2.2.2 hw⟩

/-- A status of one surrogate has no line break in it and fails all the same, without its kind. -/
theorem surrogate_fails_without_break :
    let v := Value.simple [.surrogate 0]
    let fault : Unwritable := .surrogates ⟨0, 0, 1⟩
    encode v = .error fault ∧ (∀ node, Within node v → ¬node.BreaksLine) ∧
      fault.className = "UnicodeEncodeError" ∧
      fault.message =
        "'utf-8' codec can't encode character '\\ud800' in position 0: surrogates not allowed" ∧
      ¬FailsAtFirstBreak v := by
  intro v fault
  have hv : encode v = .error fault := by decide
  have hb : ∀ node, Within node v → ¬node.BreaksLine := by
    intro node hw
    obtain rfl := List.mem_singleton.1 (mem_nodes_iff.2 hw)
    rintro ⟨text, ht, hm⟩
    obtain rfl := Option.some.inj ht
    revert hm
    decide
  refine ⟨hv, hb, rfl, by decide, fun h => ?_⟩
  obtain ⟨node, hw, hn⟩ := h.1.1 ⟨fault, hv⟩
  exact hb node hw hn

end StreamRequest.Value
