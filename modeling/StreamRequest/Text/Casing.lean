/-
Text in lower and in upper case.

Every character has its own form, which may be several characters. Only the
capital sigma looks about: at the end of a word, that is behind a letter and
not before one, its lower case is the final sigma.
-/
import StreamRequest.Text.CaseTable

namespace StreamRequest.Casing

open CaseTable

/-- By how much the number of a character changes. -/
def shift (runs : List CaseRun) (n : Nat) : Int :=
  match runs.find? (·.covers n) with
  | some run => run.shift
  | none => 0

/-- The characters that a character becomes. -/
def mapChar (runs : List CaseRun) (expansions : List (Nat × List Nat)) (c : Char) : List Char :=
  match expansions.lookup c.toNat with
  | some numbers => numbers.map Char.ofNat
  | none => [.ofNat (c.toNat + shift runs c.toNat).toNat]

/-- The upper case of a character. -/
def upperChar (c : Char) : List Char :=
  mapChar upperRuns upperExpansions c

/-- The lower case of a character that stands alone. -/
def lowerChar (c : Char) : List Char :=
  mapChar lowerRuns lowerExpansions c

/-- Whether a character is passed over between a sigma and its neighbours. -/
def isIgnorable (c : Char) : Bool :=
  ignorable.covers c.toNat

/-- Whether a character that is not passed over is a letter with a case. -/
def isCased (c : Char) : Bool :=
  cased.covers c.toNat

/-- Whether the first character of a text that is not passed over is a letter. -/
def beginsCased (text : List Char) : Bool :=
  match text.dropWhile isIgnorable with
  | [] => false
  | c :: _ => isCased c

/-- The lower case of a text; `behind` says whether a letter stands before it. -/
def lowerFrom (behind : Bool) : List Char → List Char
  | [] => []
  | c :: rest =>
    let here := if c = 'Σ' then [if behind && !beginsCased rest then 'ς' else 'σ'] else lowerChar c
    here ++ lowerFrom (if isIgnorable c then behind else isCased c) rest

/-- A text in lower case. -/
def lower (text : String) : String :=
  .ofList (lowerFrom false text.toList)

/-- A text in upper case. -/
def upper (text : String) : String :=
  .ofList (text.toList.flatMap upperChar)

end StreamRequest.Casing
