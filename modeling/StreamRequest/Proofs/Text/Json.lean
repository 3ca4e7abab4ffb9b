/-
JSON objects are told from what is printed of them.

A character is written in one of three ways (`escapeChar_cases`). `readString`
undoes them and stops at the closing quotation mark of a string, whatever stands
behind it (`readString_stringChars`). So a string comes off the front of any text
in one way, and a number does where no digit follows it (`chars_cancel`). An object
is then told member by member, in either layout (`Layout.members_injective`).

No control sequence begins in an object: the character that would begin one is
escaped as every control is (`escapeMark_not_mem_indented`).
-/
import StreamRequest.Proofs.Text.Decimal
import StreamRequest.Proofs.Text.Printable
import StreamRequest.Proofs.Text.Unescape
import StreamRequest.Text.Json

namespace StreamRequest

namespace Json

open Decimal (EndsNumber)

/-! ## Strings -/

/-- The character that a letter behind a backslash stands for. -/
def meaning : Char → Char
  | 'b' => '\x08'
  | 'f' => '\x0c'
  | 'n' => '\n'
  | 'r' => '\r'
  | 't' => '\t'
  | c => c

/-- What may stand behind a backslash for a character. -/
def letters : List Char := ['"', '\\', 'b', 'f', 'n', 'r', 't']

/-- A character is written as a letter behind a backslash, as itself, or by its number. -/
theorem escapeChar_cases (charset : Charset) (c : Char) :
    (∃ letter ∈ letters, escapeChar charset c = ['\\', letter] ∧ meaning letter = c) ∨
    (escapeChar charset c = [c] ∧ c ≠ '"' ∧ c ≠ '\\' ∧ charset.isPlain c = true) ∨
    (escapeChar charset c = escapeNumber c.toNat ∧ charset.isPlain c = false) := by
  unfold escapeChar
  split
  · rename_i h
    rcases h with rfl | rfl
    · exact .inl ⟨_, by decide, rfl, rfl⟩
    · exact .inl ⟨_, by decide, rfl, rfl⟩
  split
  · rename_i h
    exact .inl ⟨'b', by decide, rfl, h.symm⟩
  split
  · rename_i h
    exact .inl ⟨'f', by decide, rfl, h.symm⟩
  split
  · rename_i h
    exact .inl ⟨'n', by decide, rfl, h.symm⟩
  split
  · rename_i h
    exact .inl ⟨'r', by decide, rfl, h.symm⟩
  split
  · rename_i h
    exact .inl ⟨'t', by decide, rfl, h.symm⟩
  split
  · rename_i hq _ _ _ _ _ hp
    exact .inr (.inl ⟨rfl, fun e => hq (.inl e), fun e => hq (.inr e), hp⟩)
  · rename_i hp
    exact .inr (.inr ⟨rfl, Bool.eq_false_iff.2 hp⟩)

/-- Puts a character before a text that has been read. -/
def put (c : Char) (read : List Char × List Char) : List Char × List Char :=
  (c :: read.1, read.2)

/-- The string whose opening quotation mark has been read, and what stands behind the closing one. -/
def readString : List Char → Option (List Char × List Char)
  | [] => none
  | '"' :: rest => some ([], rest)
  | '\\' :: 'u' :: a :: b :: c :: d :: rest =>
    (readString rest).map (put (.ofNat (Hexadecimal.number [a, b, c, d])))
  | '\\' :: c :: rest => (readString rest).map (put (meaning c))
  | c :: rest => (readString rest).map (put c)

theorem readString_cons {c : Char} (hq : c ≠ '"') (hb : c ≠ '\\') (rest : List Char) :
    readString (c :: rest) = (readString rest).map (put c) := by
  conv =>
    lhs
    unfold readString
  split <;> simp_all

theorem readString_letter {letter : Char} (h : letter ∈ letters) (rest : List Char) :
    readString ('\\' :: letter :: rest) = (readString rest).map (put (meaning letter)) := by
  simp only [letters, List.mem_cons, List.not_mem_nil, or_false] at h
  rcases h with rfl | rfl | rfl | rfl | rfl | rfl | rfl <;> rfl

theorem readString_escapeUnit {n : Nat} (h : n < 0x10000) (rest : List Char) :
    readString (escapeUnit n ++ rest) = (readString rest).map (put (.ofNat n)) := by
  have hn : Hexadecimal.number (Hexadecimal.fixed 4 n) = n := by
    rw [Hexadecimal.number_fixed]
    exact Nat.mod_eq_of_lt h
  show (readString rest).map (put (.ofNat (Hexadecimal.number (Hexadecimal.fixed 4 n)))) = _
  rw [hn]

theorem readString_escapeChar (c : Char) (rest : List Char) :
    readString (escapeChar .unicode c ++ rest) = (readString rest).map (put c) := by
  rcases escapeChar_cases .unicode c with ⟨letter, hl, h, rfl⟩ | ⟨h, hq, hb, -⟩ | ⟨h, hp⟩
  · rw [h]
    exact readString_letter hl rest
  · rw [h]
    exact readString_cons hq hb rest
  · have hn : c.toNat < 0x20 := by
      simpa [Charset.isPlain] using hp
    rw [h, escapeNumber, if_pos (by omega), readString_escapeUnit (by omega), Char.ofNat_toNat]

theorem readString_stringChars (text rest : List Char) :
    readString (text.flatMap (escapeChar .unicode) ++ '"' :: rest) = some (text, rest) := by
  induction text with
  | nil => rfl
  | cons c text ih =>
    rw [List.flatMap_cons, List.append_assoc, readString_escapeChar, ih]
    rfl

theorem stringChars_cancel {s t a b : List Char}
    (h : stringChars .unicode s ++ a = stringChars .unicode t ++ b) : s = t ∧ a = b := by
  simp only [stringChars, List.cons_append, List.append_assoc, List.nil_append] at h
  have hs := readString_stringChars s a
  rw [(List.cons.inj h).2, readString_stringChars] at hs
  obtain ⟨rfl, rfl⟩ := Prod.mk.inj (Option.some.inj hs)
  exact ⟨rfl, rfl⟩

/-! ## Objects -/

/-- A scalar without stray bytes: a stray byte is written as a character may be. -/
def Scalar.Whole : Scalar → Prop
  | .ragged _ => False
  | .text _ | .integer _ => True

theorem stringChars_ne_ofInt {s : List Char} {i : Int} (a b : List Char) :
    stringChars .unicode s ++ a ≠ Decimal.ofInt i ++ b := by
  intro h
  cases i with
  | ofNat n => exact Decimal.ofNat_append_ne_cons (c := '"') (by decide) b _ h.symm
  | negSucc n => exact absurd (List.cons.inj h).1 (by decide)

theorem Scalar.chars_cancel {v w : Scalar} {a b : List Char} (hv : v.Whole) (hw : w.Whole)
    (ha : EndsNumber a) (hb : EndsNumber b) (h : v.chars .unicode ++ a = w.chars .unicode ++ b) :
    v = w ∧ a = b := by
  cases v <;> cases w <;> simp only [Scalar.Whole] at hv hw <;> simp only [Scalar.chars] at h
  case text.text s t =>
    obtain ⟨hst, rfl⟩ := stringChars_cancel h
    exact ⟨congrArg Scalar.text (String.toList_inj.1 hst), rfl⟩
  case text.integer s i => exact absurd h (stringChars_ne_ofInt a b)
  case integer.text i s => exact absurd h.symm (stringChars_ne_ofInt b a)
  case integer.integer i j =>
    obtain ⟨rfl, rfl⟩ := Decimal.ofInt_cancel ha hb h
    exact ⟨rfl, rfl⟩

theorem memberChars_cancel {gap : List Char} {m n : String × Scalar} {a b : List Char}
    (hm : m.2.Whole) (hn : n.2.Whole) (ha : EndsNumber a) (hb : EndsNumber b)
    (h : memberChars .unicode gap m ++ a = memberChars .unicode gap n ++ b) : m = n ∧ a = b := by
  simp only [memberChars, List.append_assoc, List.cons_append] at h
  obtain ⟨hk, h⟩ := stringChars_cancel h
  obtain ⟨hv, rfl⟩ := Scalar.chars_cancel hm hn ha hb
    (List.append_cancel_left (List.cons.inj h).2)
  exact ⟨Prod.ext (String.toList_inj.1 hk) hv, rfl⟩

/-- How the members of an object are set: what stands before each of them and behind its colon,
behind a comma, and at the end. -/
structure Layout where
  lead : List Char
  gap : List Char
  comma : List Char
  last : List Char

namespace Layout

/-- A member as it stands in the object. -/
def member (layout : Layout) (m : String × Scalar) : List Char :=
  layout.lead ++ memberChars .unicode layout.gap m

/-- The members that follow another, and the end of the object. -/
def others (layout : Layout) (ms : Members) : List Char :=
  ms.flatMap (fun m => ',' :: layout.comma ++ layout.member m) ++ layout.last

/-- The members of an object and its end. -/
def members (layout : Layout) (ms : Members) : List Char :=
  (',' :: layout.comma).intercalate (ms.map layout.member) ++ layout.last

/-- The end of the object is not taken for anything else. -/
structure Sound (layout : Layout) : Prop where
  endsNumber : EndsNumber layout.last
  notComma : ∀ rest, layout.last ≠ ',' :: rest
  notMember : ∀ rest, layout.last ≠ layout.lead ++ '"' :: rest

theorem members_cons (layout : Layout) (m : String × Scalar) (ms : Members) :
    layout.members (m :: ms) = layout.member m ++ layout.others ms := by
  rw [members, List.map_cons, intercalate_cons, List.flatMap_map, List.append_assoc, others]

variable {layout : Layout} (sound : layout.Sound)
include sound

theorem endsNumber_others (ms : Members) : EndsNumber (layout.others ms) := by
  cases ms with
  | nil => exact sound.endsNumber
  | cons m ms => exact .cons (by decide) _

theorem member_cancel {m n : String × Scalar} {ms ns : Members} (hm : m.2.Whole) (hn : n.2.Whole)
    (h : layout.member m ++ layout.others ms = layout.member n ++ layout.others ns) :
    m = n ∧ layout.others ms = layout.others ns := by
  rw [member, member, List.append_assoc, List.append_assoc] at h
  exact memberChars_cancel hm hn (endsNumber_others sound ms) (endsNumber_others sound ns)
    (List.append_cancel_left h)

theorem others_injective {ms ns : Members} (hm : ∀ m ∈ ms, m.2.Whole) (hn : ∀ n ∈ ns, n.2.Whole)
    (h : layout.others ms = layout.others ns) : ms = ns := by
  induction ms generalizing ns with
  | nil =>
    cases ns with
    | nil => rfl
    | cons n ns => exact absurd h (sound.notComma _)
  | cons m ms ih =>
    cases ns with
    | nil => exact absurd h.symm (sound.notComma _)
    | cons n ns =>
      rw [List.forall_mem_cons] at hm hn
      simp only [others, List.flatMap_cons, List.cons_append, List.append_assoc] at h
      obtain ⟨rfl, hrest⟩ := member_cancel sound hm.1 hn.1
        (List.append_cancel_left (List.cons.inj h).2)
      rw [ih hm.2 hn.2 hrest]

/-- The members of an object are told from what is written of them. -/
theorem members_injective {ms ns : Members} (hm : ∀ m ∈ ms, m.2.Whole)
    (hn : ∀ n ∈ ns, n.2.Whole) (h : layout.members ms = layout.members ns) : ms = ns := by
  have opens : ∀ (m : String × Scalar) (ms : Members),
      layout.members [] ≠ layout.members (m :: ms) := by
    intro m ms e
    simp only [members_cons, member, memberChars, stringChars, List.append_assoc,
      List.cons_append] at e
    exact sound.notMember _ e
  cases ms with
  | nil =>
    cases ns with
    | nil => rfl
    | cons n ns => exact absurd h (opens n ns)
  | cons m ms =>
    cases ns with
    | nil => exact absurd h.symm (opens m ms)
    | cons n ns =>
      rw [members_cons, members_cons] at h
      rw [List.forall_mem_cons] at hm hn
      obtain ⟨rfl, hrest⟩ := member_cancel sound hm.1 hn.1 h
      rw [others_injective sound hm.2 hn.2 hrest]

end Layout

/-- All on one line. -/
def oneLine : Layout := ⟨[], [], [], ['\x7d']⟩

/-- A line for each member. -/
def lines : Layout := ⟨[' ', ' '], [' '], ['\n'], ['\n', '\x7d']⟩

theorem compact_injective {ms ns : Members} (hm : ∀ m ∈ ms, m.2.Whole) (hn : ∀ n ∈ ns, n.2.Whole)
    (h : compact .unicode ms = compact .unicode ns) : ms = ns := by
  have sound : oneLine.Sound :=
    ⟨.cons (by decide) _, fun _ e => (nomatch e), fun _ e => (nomatch e)⟩
  exact Layout.members_injective sound hm hn (List.cons.inj (String.ofList_injective h)).2

theorem indented_injective {ms ns : Members} (hm : ∀ m ∈ ms, m.2.Whole)
    (hn : ∀ n ∈ ns, n.2.Whole) (h : indented .unicode ms = indented .unicode ns) : ms = ns := by
  have sound : lines.Sound :=
    ⟨.cons (by decide) _, fun _ e => (nomatch e), fun _ e => (nomatch e)⟩
  have hlines := (List.cons.inj (String.ofList_injective h)).2
  exact Layout.members_injective sound hm hn (List.cons.inj hlines).2

/-! ## Control sequences -/

open ControlSequence (escapeMark)

theorem escapeMark_not_mem_escapeUnit (n : Nat) : escapeMark ∉ escapeUnit n := by
  intro h
  simp only [escapeUnit, List.mem_cons] at h
  rcases h with h | h | h
  · exact absurd h (by decide)
  · exact absurd h (by decide)
  · exact (Hexadecimal.all_printable_fixed 4 n).not_mem (by decide) h

theorem escapeMark_not_mem_escapeNumber (n : Nat) : escapeMark ∉ escapeNumber n := by
  unfold escapeNumber
  split
  · exact escapeMark_not_mem_escapeUnit _
  · rw [List.mem_append, not_or]
    exact ⟨escapeMark_not_mem_escapeUnit _, escapeMark_not_mem_escapeUnit _⟩

/-- The character that begins control sequences is itself a control, so it is escaped. -/
theorem escapeMark_not_mem_escapeChar (charset : Charset) (c : Char) :
    escapeMark ∉ escapeChar charset c := by
  have hletters : escapeMark ∉ letters := by decide
  have hmark : charset.isPlain escapeMark = false := by
    cases charset <;> decide
  rcases escapeChar_cases charset c with ⟨letter, hl, h, -⟩ | ⟨h, -, -, hp⟩ | ⟨h, -⟩
  · rw [h, List.mem_cons, List.mem_singleton, not_or]
    exact ⟨by decide, fun e => hletters (e ▸ hl)⟩
  · rw [h, List.mem_singleton]
    rintro rfl
    rw [hmark] at hp
    cases hp
  · rw [h]
    exact escapeMark_not_mem_escapeNumber c.toNat

theorem escapeMark_not_mem_quoted {α : Type} {escape : α → List Char} {text : List α}
    (h : ∀ x, escapeMark ∉ escape x) : escapeMark ∉ '"' :: text.flatMap escape ++ ['"'] := by
  intro hm
  rcases List.mem_append.1 hm with hm | hm
  · rcases List.mem_cons.1 hm with hm | hm
    · exact absurd hm (by decide)
    · obtain ⟨x, -, hx⟩ := List.mem_flatMap.1 hm
      exact h x hx
  · exact absurd hm (by decide)

theorem escapeMark_not_mem_stringChars (charset : Charset) (text : List Char) :
    escapeMark ∉ stringChars charset text :=
  escapeMark_not_mem_quoted (escapeMark_not_mem_escapeChar charset)

theorem Scalar.escapeMark_not_mem_chars (charset : Charset) (v : Scalar) :
    escapeMark ∉ v.chars charset := by
  cases v with
  | text t => exact escapeMark_not_mem_stringChars charset t.toList
  | ragged t =>
    refine escapeMark_not_mem_quoted fun piece => ?_
    cases piece with
    | char c => exact escapeMark_not_mem_escapeChar charset c
    | stray b => exact escapeMark_not_mem_escapeUnit _
  | integer i => exact Decimal.not_mem_ofInt (by decide) (by decide)

theorem escapeMark_not_mem_indented (charset : Charset) (ms : Members) :
    escapeMark ∉ (indented charset ms).toList := by
  intro h
  rw [indented, String.toList_ofList, List.mem_append, List.mem_cons, List.mem_cons] at h
  rcases h with (h | h | h) | h
  · exact absurd h (by decide)
  · exact absurd h (by decide)
  · rcases mem_of_mem_intercalate h with h | ⟨part, hp, h⟩
    · exact absurd h (by decide)
    · obtain ⟨m, -, rfl⟩ := List.mem_map.1 hp
      simp only [memberChars, List.mem_cons, List.mem_append, List.not_mem_nil, or_false] at h
      rcases h with h | h | (h | h | h) | h
      · exact absurd h (by decide)
      · exact absurd h (by decide)
      · exact escapeMark_not_mem_stringChars charset _ h
      · exact absurd h (by decide)
      · exact absurd h (by decide)
      · exact m.2.escapeMark_not_mem_chars charset h
  · exact absurd h (by decide)

end Json

end StreamRequest
