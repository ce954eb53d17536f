import Mathlib.Data.List.Forall2

/-!
# Computations that may fail

What follows from the success or the failure of a computation that is put together from others, of
one that runs over a list, and of a lookup in a list of entries.
-/

namespace CallAtlas

section

variable {α β ε : Type}

theorem ok_bind (a : α) (next : α → Except ε β) : (Except.ok a >>= next) = next a := rfl

theorem bind_ok {x : Except ε α} {next : α → Except ε β} {b : β} (h : x >>= next = .ok b) :
    ∃ a, x = .ok a ∧ next a = .ok b := by
  cases x with
  | error e => cases h
  | ok a => exact ⟨a, rfl, h⟩

theorem bind_error {x : Except ε α} {next : α → Except ε β} {e : ε} (h : x >>= next = .error e) :
    x = .error e ∨ ∃ a, x = .ok a ∧ next a = .error e := by
  cases x with
  | error e' =>
      cases h
      exact .inl rfl
  | ok a => exact .inr ⟨a, rfl, h⟩

theorem exists_bind_ok {x : Except ε α} {next : α → Except ε β} :
    (∃ b, x >>= next = .ok b) ↔ ∃ a, x = .ok a ∧ ∃ b, next a = .ok b := by
  constructor
  · rintro ⟨b, h⟩
    obtain ⟨a, hx, hnext⟩ := bind_ok h
    exact ⟨a, hx, b, hnext⟩
  · rintro ⟨a, rfl, h⟩
    exact h

end

theorem eq_ok_of_toOption {α ε : Type} {x : Except ε α} {a : α} (h : x.toOption = some a) :
    x = .ok a := by
  cases x with
  | error e => cases h
  | ok b => exact congrArg Except.ok (Option.some.inj h)

/-- A traversal that succeeds has the result for every element, in their order. -/
theorem mapM_ok {α β ε : Type} {f : α → Except ε β} {xs : List α} {ys : List β}
    (h : xs.mapM f = .ok ys) : List.Forall₂ (fun x y => f x = .ok y) xs ys := by
  induction xs generalizing ys with
  | nil =>
      obtain rfl := Except.ok.inj h
      exact .nil
  | cons x xs ih =>
      rw [List.mapM_cons] at h
      cases hx : f x with
      | error e =>
          rw [hx] at h
          cases h
      | ok y =>
          cases hxs : xs.mapM f with
          | error e =>
              rw [hx, hxs] at h
              cases h
          | ok ys' =>
              rw [hx, hxs] at h
              obtain rfl := Except.ok.inj h
              exact .cons hx (ih hxs)

/-- A traversal that fails does so at some element. -/
theorem mapM_error {α β ε : Type} {f : α → Except ε β} {xs : List α} {e : ε}
    (h : xs.mapM f = .error e) : ∃ x ∈ xs, f x = .error e := by
  induction xs with
  | nil => cases h
  | cons x xs ih =>
      rw [List.mapM_cons] at h
      cases hx : f x with
      | error e' =>
          rw [hx] at h
          cases h
          exact ⟨x, List.mem_cons_self, hx⟩
      | ok y =>
          cases hxs : xs.mapM f with
          | error e' =>
              rw [hx, hxs] at h
              cases h
              obtain ⟨x', hx', heq⟩ := ih hxs
              exact ⟨x', List.mem_cons_of_mem _ hx', heq⟩
          | ok ys =>
              rw [hx, hxs] at h
              cases h

theorem exists_right_of_forall₂ {α β : Type} {related : α → β → Prop} {xs : List α} {ys : List β}
    (h : List.Forall₂ related xs ys) {x : α} (hx : x ∈ xs) : ∃ y ∈ ys, related x y := by
  induction h with
  | nil => cases hx
  | cons hrelated _ ih =>
      rcases List.mem_cons.1 hx with rfl | hx
      · exact ⟨_, List.mem_cons_self, hrelated⟩
      · obtain ⟨y, hy, hrelated⟩ := ih hx
        exact ⟨y, List.mem_cons_of_mem _ hy, hrelated⟩

/-- A traversal that has a result for every element succeeds. -/
theorem mapM_eq_ok {α β ε : Type} {f : α → Except ε β} {xs : List α}
    (h : ∀ x ∈ xs, ∃ y, f x = .ok y) : ∃ ys, xs.mapM f = .ok ys := by
  cases hresult : xs.mapM f with
  | ok ys => exact ⟨ys, rfl⟩
  | error e =>
      obtain ⟨x, hx, hfails⟩ := mapM_error hresult
      obtain ⟨y, hy⟩ := h x hx
      rw [hfails] at hy
      cases hy

theorem mapM_eq_ok_map {α β ε : Type} {f : α → Except ε β} {g : α → β} {xs : List α}
    (h : ∀ x ∈ xs, f x = .ok (g x)) : xs.mapM f = .ok (xs.map g) := by
  induction xs with
  | nil => rfl
  | cons x xs ih =>
      obtain ⟨hx, hxs⟩ := List.forall_mem_cons.1 h
      rw [List.mapM_cons, hx, ih hxs]
      rfl

/-- The errors of a computation can be renamed in its parts. -/
theorem mapError_bind {α β ε ε' : Type} (x : Except ε α) (next : α → Except ε β) (rename : ε → ε') :
    (x >>= next).mapError rename = x.mapError rename >>= fun a => (next a).mapError rename := by
  cases x with
  | error e => rfl
  | ok a => rfl

theorem mapError_mapM {α β ε ε' : Type} (f : α → Except ε β) (xs : List α) (rename : ε → ε') :
    (xs.mapM f).mapError rename = xs.mapM fun x => (f x).mapError rename := by
  induction xs with
  | nil => rfl
  | cons x xs ih =>
      rw [List.mapM_cons, List.mapM_cons, mapError_bind]
      congr 1
      funext y
      rw [mapError_bind, ih]
      rfl

/-- A loop whose every step adds the results for some elements adds the results for all of them. -/
theorem foldlM_append {α β γ ε : Type} {step : List γ → α → Except ε (List γ)} {f : β → Except ε γ}
    {parts : α → List β} {xs : List α}
    (h : ∀ x ∈ xs, ∀ done, step done x = (done ++ ·) <$> (parts x).mapM f) (done : List γ) :
    xs.foldlM step done = (done ++ ·) <$> (xs.flatMap parts).mapM f := by
  induction xs generalizing done with
  | nil => simp
  | cons x xs ih =>
      obtain ⟨hx, hxs⟩ := List.forall_mem_cons.1 h
      rw [List.foldlM_cons, hx, List.flatMap_cons, List.mapM_append]
      simp [ih hxs]

theorem mem_of_lookup {κ α : Type} [BEq κ] [LawfulBEq κ] {entries : List (κ × α)} {key : κ}
    {value : α} (h : entries.lookup key = some value) : (key, value) ∈ entries := by
  obtain ⟨before, after, rfl, -⟩ := List.lookup_eq_some_iff.1 h
  simp

end CallAtlas
