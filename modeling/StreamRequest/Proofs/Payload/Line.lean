/-
What is shown of a payload is told from its line, whatever stands behind the line.

A listing is told number by number: behind each stands a comma or the closing
bracket, so no number runs on. A quoted text and a listing differ in their first
character (`line_cancel`). What is shown is the payload itself where it is shown
whole (`whole_injective`).
-/
import StreamRequest.Proofs.Payload.View
import StreamRequest.Proofs.Text.Decimal
import StreamRequest.Proofs.Text.Printable
import StreamRequest.Proofs.Text.Quoted

namespace StreamRequest.Payload

open Decimal (EndsNumber)

/-! ## Listings -/

/-- The numbers that follow another, and the end of the listing. -/
def others (data : Bytes) : List Char :=
  data.flatMap (fun b => ',' :: ' ' :: Decimal.ofNat b.toNat) ++ [']']

/-- What stands behind the opening bracket. -/
def inner : Bytes → List Char
  | [] => [']']
  | b :: data => Decimal.ofNat b.toNat ++ others data

theorem toList_listing (data : Bytes) : (listing data).toList = '[' :: inner data := by
  have hcomma : ", ".toList = [',', ' '] := by decide
  cases data with
  | nil => decide
  | cons b data =>
    simp only [listing, String.toList_append, String.toList_intercalate, List.map_cons,
      List.map_map, intercalate_cons, List.flatMap_map, Function.comp_def, Decimal.natText,
      String.toList_ofList, hcomma, inner, others, List.append_assoc]
    rfl

theorem endsNumber_others (data : Bytes) (rest : List Char) : EndsNumber (others data ++ rest) := by
  cases data with
  | nil => exact .cons (by decide) _
  | cons b data => exact .cons (by decide) _

theorem number_cancel {x y : UInt8} {s t : Bytes} {a b : List Char}
    (h : Decimal.ofNat x.toNat ++ (others s ++ a) = Decimal.ofNat y.toNat ++ (others t ++ b)) :
    x = y ∧ others s ++ a = others t ++ b := by
  obtain ⟨hxy, hrest⟩ := Decimal.ofNat_cancel (endsNumber_others s a) (endsNumber_others t b) h
  exact ⟨UInt8.toNat_inj.1 hxy, hrest⟩

theorem others_cons_append (x : UInt8) (data : Bytes) (rest : List Char) :
    others (x :: data) ++ rest =
      ',' :: ' ' :: (Decimal.ofNat x.toNat ++ (others data ++ rest)) := by
  simp only [others, List.flatMap_cons, List.cons_append, List.append_assoc]

theorem others_cancel {s t : Bytes} {a b : List Char} (h : others s ++ a = others t ++ b) :
    s = t ∧ a = b := by
  induction s generalizing t with
  | nil =>
    cases t with
    | nil => exact ⟨rfl, (List.cons.inj h).2⟩
    | cons y t => exact absurd (List.cons.inj h).1 (by decide)
  | cons x s ih =>
    cases t with
    | nil => exact absurd (List.cons.inj h).1 (by decide)
    | cons y t =>
      rw [others_cons_append, others_cons_append] at h
      obtain ⟨rfl, hrest⟩ := number_cancel (List.cons.inj (List.cons.inj h).2).2
      obtain ⟨rfl, rfl⟩ := ih hrest
      exact ⟨rfl, rfl⟩

theorem inner_cancel {s t : Bytes} {a b : List Char} (h : inner s ++ a = inner t ++ b) :
    s = t ∧ a = b := by
  cases s with
  | nil =>
    cases t with
    | nil => exact ⟨rfl, (List.cons.inj h).2⟩
    | cons y t =>
      rw [inner, inner, List.append_assoc] at h
      exact absurd h.symm (Decimal.ofNat_append_ne_cons (by decide) _ _)
  | cons x s =>
    cases t with
    | nil =>
      rw [inner, inner, List.append_assoc] at h
      exact absurd h (Decimal.ofNat_append_ne_cons (by decide) _ _)
    | cons y t =>
      rw [inner, inner, List.append_assoc, List.append_assoc] at h
      obtain ⟨rfl, hrest⟩ := number_cancel h
      obtain ⟨rfl, rfl⟩ := others_cancel hrest
      exact ⟨rfl, rfl⟩

theorem listing_cancel {s t : Bytes} {a b : String} (h : listing s ++ a = listing t ++ b) :
    s = t ∧ a = b := by
  have hl := congrArg String.toList h
  simp only [String.toList_append, toList_listing, List.cons_append] at hl
  obtain ⟨rfl, hab⟩ := inner_cancel (List.cons.inj hl).2
  exact ⟨rfl, String.toList_inj.1 hab⟩

/-! ## Views -/

theorem quote_ne_listing (text : String) (data : Bytes) (a b : String) :
    Quoted.quote text ++ a ≠ listing data ++ b := by
  intro h
  have hl := congrArg String.toList h
  rw [String.toList_append, String.toList_append, toList_listing, Quoted.quote,
    String.toList_ofList] at hl
  have hmark : Quoted.mark text.toList = '[' := (List.cons.inj hl).1
  rcases Quoted.isMark_mark text.toList with hm | hm
  · exact absurd (hm.symm.trans hmark) (by decide)
  · exact absurd (hm.symm.trans hmark) (by decide)

/-- What is shown comes off the front of any text in one way. -/
theorem View.line_cancel {v w : View} {a b : String} (h : v.line ++ a = w.line ++ b) :
    v = w ∧ a = b := by
  cases v <;> cases w <;> simp only [line] at h
  case text.text s t =>
    obtain ⟨rfl, rfl⟩ := Quoted.quote_cancel h
    exact ⟨rfl, rfl⟩
  case text.bytes s t => exact absurd h (quote_ne_listing s t a b)
  case bytes.text s t => exact absurd h.symm (quote_ne_listing t s b a)
  case bytes.bytes s t =>
    obtain ⟨rfl, rfl⟩ := listing_cancel h
    exact ⟨rfl, rfl⟩

/-- What is shown whole is the text that the payload spells, or else its bytes. -/
theorem whole_cases (data : Bytes) :
    (∃ text, Utf8.ofText text = data ∧ whole data = .text text) ∨ whole data = .bytes data := by
  by_cases hw : Utf8.WellFormed data
  · obtain ⟨text, rfl⟩ := Utf8.exists_ofText hw
    exact .inl ⟨text, rfl, whole_ofText text⟩
  · exact .inr (whole_of_not_wellFormed hw)

theorem whole_injective {s t : Bytes} (h : whole s = whole t) : s = t := by
  rcases whole_cases s with ⟨a, rfl, ha⟩ | hs <;> rcases whole_cases t with ⟨b, rfl, hb⟩ | ht
  · rw [ha, hb] at h
    rw [View.text.inj h]
  · rw [ha, ht] at h
    cases h
  · rw [hs, hb] at h
    cases h
  · rw [hs, ht] at h
    exact View.bytes.inj h

end StreamRequest.Payload
