/-
Quoted text comes off the front of any text in one way.

Between its marks a character is written in one of three ways (`escapeChar_cases`),
and however it is written, it is read back with just what follows it
(`readChar_escapeChar`). None of them begins with the mark. So the closing mark is
the first one that no character accounts for, whatever text stands between the marks
and behind them (`quoteChars_cancel`).
-/
import StreamRequest.Proofs.Text.Unescape
import StreamRequest.Text.Quoted

namespace StreamRequest.Quoted

open Printable (isPrintable)

/-! ## One character -/

/-- How many digits stand behind a letter that begins a number. -/
def digitCount : Char → Option Nat
  | 'x' => some 2
  | 'u' => some 4
  | 'U' => some 8
  | _ => none

/-- The character that any other letter stands for behind a backslash. -/
def meaning : Char → Char
  | 't' => '\t'
  | 'n' => '\n'
  | 'r' => '\r'
  | c => c

theorem escapeNumber_eq (c : Char) :
    ∃ letter width, digitCount letter = some width ∧ c.toNat < 16 ^ width ∧
      escapeNumber c.toNat = '\\' :: letter :: Hexadecimal.fixed width c.toNat := by
  have hv : c.toNat < 0xD800 ∨ 0xDFFF < c.toNat ∧ c.toNat < 0x110000 := c.valid
  unfold escapeNumber
  split
  · exact ⟨'x', 2, rfl, by omega, rfl⟩
  split
  · exact ⟨'u', 4, rfl, by omega, rfl⟩
  · exact ⟨'U', 8, rfl, by omega, rfl⟩

/-- The two marks. -/
def IsMark (m : Char) : Prop := m = '\x27' ∨ m = '"'

theorem isMark_mark (text : List Char) : IsMark (mark text) := by
  unfold mark
  split
  · exact .inr rfl
  · exact .inl rfl

theorem IsMark.ne_backslash {m : Char} (hm : IsMark m) : m ≠ '\\' := by
  rcases hm with rfl | rfl <;> decide

/-- A character is written as a letter behind a backslash, as itself, or by its number. -/
theorem escapeChar_cases {m : Char} (hm : IsMark m) (c : Char) :
    (∃ letter, escapeChar m c = ['\\', letter] ∧ digitCount letter = none ∧ meaning letter = c) ∨
    (escapeChar m c = [c] ∧ c ≠ m ∧ c ≠ '\\' ∧ isPrintable c = true) ∨
    escapeChar m c = escapeNumber c.toNat := by
  unfold escapeChar
  split
  · rename_i h
    rcases h with rfl | rfl
    · rcases hm with rfl | rfl
      · exact .inl ⟨_, rfl, rfl, rfl⟩
      · exact .inl ⟨_, rfl, rfl, rfl⟩
    · exact .inl ⟨_, rfl, rfl, rfl⟩
  split
  · rename_i h
    exact .inl ⟨'t', rfl, rfl, h.symm⟩
  split
  · rename_i h
    exact .inl ⟨'n', rfl, rfl, h.symm⟩
  split
  · rename_i h
    exact .inl ⟨'r', rfl, rfl, h.symm⟩
  split
  · rename_i hq _ _ _ hp
    exact .inr (.inl ⟨rfl, fun e => hq (.inl e), fun e => hq (.inr e), hp⟩)
  · exact .inr (.inr rfl)

/-! ## Reading -/

/-- The character that stands at the head of escaped text, and what follows it. -/
def readChar : List Char → Option (Char × List Char)
  | [] => none
  | '\\' :: letter :: rest =>
    match digitCount letter with
    | some width => some (.ofNat (Hexadecimal.number (rest.take width)), rest.drop width)
    | none => some (meaning letter, rest)
  | c :: rest => some (c, rest)

theorem readChar_cons {c : Char} (hc : c ≠ '\\') (rest : List Char) :
    readChar (c :: rest) = some (c, rest) := by
  unfold readChar
  split <;> simp_all

theorem readChar_letter {letter : Char} (h : digitCount letter = none) (rest : List Char) :
    readChar ('\\' :: letter :: rest) = some (meaning letter, rest) := by
  simp only [readChar, h]

theorem readChar_number {letter : Char} {width n : Nat} (hl : digitCount letter = some width)
    (hn : n < 16 ^ width) (rest : List Char) :
    readChar ('\\' :: letter :: (Hexadecimal.fixed width n ++ rest)) = some (.ofNat n, rest) := by
  have hlength := Hexadecimal.length_fixed width n
  simp only [readChar, hl]
  rw [List.take_left' hlength, List.drop_left' hlength, Hexadecimal.number_fixed,
    Nat.mod_eq_of_lt hn]

theorem readChar_escapeChar {m : Char} (hm : IsMark m) (c : Char) (rest : List Char) :
    readChar (escapeChar m c ++ rest) = some (c, rest) := by
  rcases escapeChar_cases hm c with ⟨letter, h, hl, rfl⟩ | ⟨h, -, hb, -⟩ | h
  · rw [h]
    exact readChar_letter hl rest
  · rw [h]
    exact readChar_cons hb rest
  · obtain ⟨letter, width, hl, hn, he⟩ := escapeNumber_eq c
    rw [h, he]
    show readChar ('\\' :: letter :: (Hexadecimal.fixed width c.toNat ++ rest)) = _
    rw [readChar_number hl hn, Char.ofNat_toNat]

theorem escapeChar_cancel {m : Char} (hm : IsMark m) {c d : Char} {a b : List Char}
    (h : escapeChar m c ++ a = escapeChar m d ++ b) : c = d ∧ a = b := by
  have hc := readChar_escapeChar hm c a
  rw [h, readChar_escapeChar hm] at hc
  obtain ⟨rfl, rfl⟩ := Prod.mk.inj (Option.some.inj hc)
  exact ⟨rfl, rfl⟩

/-- What is written for a character is not taken for the closing mark. -/
theorem escapeChar_append_ne_mark {m : Char} (hm : IsMark m) (c : Char) (a b : List Char) :
    escapeChar m c ++ a ≠ m :: b := by
  intro h
  rcases escapeChar_cases hm c with ⟨letter, he, -, -⟩ | ⟨he, hne, -, -⟩ | he
  · rw [he] at h
    exact hm.ne_backslash (List.cons.inj h).1.symm
  · rw [he] at h
    exact hne (List.cons.inj h).1
  · obtain ⟨letter, width, -, -, hnumber⟩ := escapeNumber_eq c
    rw [he, hnumber] at h
    exact hm.ne_backslash (List.cons.inj h).1.symm

/-! ## Texts -/

theorem escaped_cancel {m : Char} (hm : IsMark m) {s t a b : List Char}
    (h : s.flatMap (escapeChar m) ++ m :: a = t.flatMap (escapeChar m) ++ m :: b) :
    s = t ∧ a = b := by
  induction s generalizing t with
  | nil =>
    cases t with
    | nil => exact ⟨rfl, (List.cons.inj h).2⟩
    | cons d t =>
      rw [List.flatMap_cons, List.append_assoc] at h
      exact absurd h.symm (escapeChar_append_ne_mark hm d _ _)
  | cons c s ih =>
    cases t with
    | nil =>
      rw [List.flatMap_cons, List.append_assoc] at h
      exact absurd h (escapeChar_append_ne_mark hm c _ _)
    | cons d t =>
      rw [List.flatMap_cons, List.flatMap_cons, List.append_assoc, List.append_assoc] at h
      obtain ⟨rfl, hrest⟩ := escapeChar_cancel hm h
      obtain ⟨rfl, rfl⟩ := ih hrest
      exact ⟨rfl, rfl⟩

/-- **Quoted text comes off the front of any text in one way**, whatever follows it. -/
theorem quoteChars_cancel {s t a b : List Char} (h : quoteChars s ++ a = quoteChars t ++ b) :
    s = t ∧ a = b := by
  simp only [quoteChars, List.cons_append, List.append_assoc, List.nil_append] at h
  obtain ⟨hm, h⟩ := List.cons.inj h
  rw [← hm] at h
  exact escaped_cancel (isMark_mark s) h

theorem quote_cancel {s t a b : String} (h : quote s ++ a = quote t ++ b) : s = t ∧ a = b := by
  have hl := congrArg String.toList h
  simp only [String.toList_append, quote, String.toList_ofList] at hl
  obtain ⟨hst, hab⟩ := quoteChars_cancel hl
  exact ⟨String.toList_inj.1 hst, String.toList_inj.1 hab⟩

end StreamRequest.Quoted
