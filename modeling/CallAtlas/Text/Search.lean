/-!
# Searching texts

Whether a text starts with, ends with or somewhere holds what one is looking for.
-/

namespace CallAtlas.Text

/-- Whether one of the tails of a list, the whole list and the empty one among them, has a
property. -/
def anyTail {α : Type} (p : List α → Bool) : List α → Bool
  | [] => p []
  | a :: rest => p (a :: rest) || anyTail p rest

theorem anyTail_eq_true_iff {α : Type} (p : List α → Bool) (s : List α) :
    anyTail p s = true ↔ ∃ before tail, s = before ++ tail ∧ p tail = true := by
  induction s with
  | nil =>
    constructor
    · exact fun h => ⟨[], [], rfl, h⟩
    · rintro ⟨before, tail, h, ht⟩
      have hs := List.append_eq_nil_iff.1 h.symm
      simpa [anyTail, hs.2] using ht
  | cons a rest ih =>
    simp only [anyTail, Bool.or_eq_true, ih]
    constructor
    · rintro (h | ⟨before, tail, rfl, h⟩)
      · exact ⟨[], _, rfl, h⟩
      · exact ⟨a :: before, tail, rfl, h⟩
    · rintro ⟨before, tail, h, ht⟩
      cases before with
      | nil => exact .inl (by simpa [h] using ht)
      | cons b before => exact .inr ⟨before, tail, (List.cons.inj h).2, ht⟩

def startsWith (s start : String) : Bool :=
  start.toList.isPrefixOf s.toList

def endsWith (s ending : String) : Bool :=
  ending.toList.isSuffixOf s.toList

/-- What follows a list at the start of another one. -/
def after? {α : Type} [DecidableEq α] : List α → List α → Option (List α)
  | [], s => some s
  | _ :: _, [] => none
  | a :: start, b :: s => if a = b then after? start s else none

theorem after?_eq_some_iff {α : Type} [DecidableEq α] (start s rest : List α) :
    after? start s = some rest ↔ s = start ++ rest := by
  induction start generalizing s with
  | nil => simp [after?]
  | cons a start ih =>
    cases s with
    | nil => simp [after?]
    | cons b s =>
      by_cases h : a = b
      · simp [after?, h, ih]
      · simp [after?, h, Ne.symm h]

/-- A text as it stands, and without a line feed at its end. -/
def endings (s : List Char) : List (List Char) :=
  match s.reverse with
  | '\n' :: rest => [s, rest.reverse]
  | _ => [s]

end CallAtlas.Text
