/-
Terminal control sequences in text, and text without them.

A control sequence is an escape character and an opening bracket, then any
parameter characters (`0` to `?`), then any intermediate characters (space to
`/`), then one final character (`@` to `~`). What begins like a sequence and
does not end like one is ordinary text. The items of a text need not all be
characters: one that is none belongs to no sequence.
-/
namespace StreamRequest.ControlSequence

def escapeMark : Char := '\x1b'

/-- Whether a character may be a parameter. -/
def isParameter (c : Char) : Bool :=
  0x30 ≤ c.toNat && c.toNat ≤ 0x3F

/-- Whether a character may be an intermediate. -/
def isIntermediate (c : Char) : Bool :=
  0x20 ≤ c.toNat && c.toNat ≤ 0x2F

/-- Whether a character ends a sequence. -/
def isFinal (c : Char) : Bool :=
  0x40 ≤ c.toNat && c.toNat ≤ 0x7E

/-! ## Items and their characters -/

variable {α : Type} (char? : α → Option Char)

/-- How many items belong to a sequence whose opening bracket has been read, if it ends as a
sequence must. The three classes of characters are apart, so there is one way to read it. -/
def tailLength? (text : List α) : Option Nat :=
  let parameter := fun x => (char? x).any isParameter
  let intermediate := fun x => (char? x).any isIntermediate
  let parameters := (text.takeWhile parameter).length
  let afterParameters := text.dropWhile parameter
  let intermediates := (afterParameters.takeWhile intermediate).length
  match afterParameters.dropWhile intermediate with
  | [] => none
  | x :: _ => if (char? x).any isFinal then some (parameters + intermediates + 1) else none

/-- The number of items of the sequence at the head of a text, zero if there is none. -/
def sequenceLength : List α → Nat
  | x :: y :: rest =>
    if char? x = some escapeMark ∧ char? y = some '[' then
      match tailLength? char? rest with
      | some length => length + 2
      | none => 0
    else 0
  | _ => 0

/-- The text without its sequences, where the first `skip` items belong to a sequence that has
begun before. -/
def stripFrom (skip : Nat) : List α → List α
  | [] => []
  | x :: rest =>
    match skip with
    | more + 1 => stripFrom more rest
    | 0 =>
      match sequenceLength char? (x :: rest) with
      | more + 1 => stripFrom more rest
      | 0 => x :: stripFrom 0 rest

/-- No sequence begins in items that have no escape character. -/
theorem stripFrom_append_of_forall_ne {s : List α} (h : ∀ x ∈ s, char? x ≠ some escapeMark)
    (rest : List α) : stripFrom char? 0 (s ++ rest) = s ++ stripFrom char? 0 rest := by
  induction s with
  | nil => rfl
  | cons x s ih =>
    have hx : char? x ≠ some escapeMark := h x List.mem_cons_self
    have hlen : sequenceLength char? (x :: (s ++ rest)) = 0 := by
      cases s ++ rest <;> simp [sequenceLength, hx]
    simp [stripFrom, hlen, ih fun y hy => h y (List.mem_cons_of_mem _ hy)]

theorem stripFrom_of_forall_ne {text : List α} (h : ∀ x ∈ text, char? x ≠ some escapeMark) :
    stripFrom char? 0 text = text := by
  simpa [stripFrom] using stripFrom_append_of_forall_ne char? h []

/-! ## Strings -/

/-- A text without its control sequences. -/
def strip (text : String) : String :=
  .ofList (stripFrom some 0 text.toList)

theorem strip_of_not_mem {text : String} (h : escapeMark ∉ text.toList) : strip text = text := by
  have stripped : stripFrom some 0 text.toList = text.toList :=
    stripFrom_of_forall_ne some fun x hx e => h (Option.some.inj e ▸ hx)
  rw [strip, stripped, String.ofList_toList]

end StreamRequest.ControlSequence
