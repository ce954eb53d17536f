import CallAtlas.Proofs.CallersMap
import CallAtlas.Traversal.Gather

/-!
# Gathering

A gathering that comes to its end has made every lookup once.  One worker makes them in the order of
the IDs; a pool makes them in the order of its schedule, and what it gathers is the same.  Only a
cancelled token or a lookup without an answer keeps a gathering from its end.
-/

namespace CallAtlas

/-- The lookups of a level are made in the order in which they are given. -/
def Pool.KeepsOrder (pool : Pool) : Prop :=
  pool.workers ≤ 1 ∨ ∀ made ids, pool.schedule.order made ids = ids

/-- A walk whose token is never cancelled. -/
def Walk.Calm (w : Walk) : Prop := w.token = .never

namespace Traversal

theorem query_lookups {lookup : Lookup} {id : String} {w : Walk} {found : List String}
    (h : (w.query lookup id).1 = .ok found) :
    (w.query lookup id).2.lookups = w.lookups ++ [id] := by
  unfold Walk.query at h ⊢
  split
  · rename_i htoken
    rw [htoken] at h
    cases h
  · dsimp only
    split
    · rfl
    · rfl

theorem gatherEach_lookups {lookup : Lookup} {ids : List String} {w w' : Walk}
    {direct : CallersMap} (h : gatherEach lookup ids w = (.ok direct, w')) :
    w'.lookups = w.lookups ++ ids := by
  induction ids generalizing w w' direct with
  | nil =>
      obtain rfl := (Prod.mk.inj h).2
      simp
  | cons id ids ih =>
      rw [gatherEach] at h
      split at h
      · cases h
      · rename_i found w₁ hquery
        have hfirst := query_lookups (by rw [hquery])
        rw [hquery] at hfirst
        split at h
        · cases h
        · rename_i rest w₂ hrest
          obtain rfl := (Prod.mk.inj h).2
          rw [ih hrest, hfirst, List.append_assoc, List.singleton_append]

theorem evaluate_lookups {lookup : Lookup} {order : List String} (nodup : order.Nodup) {w : Walk}
    (answered : ∀ id ∈ order, ∃ found,
      (evaluate lookup order w).1.lookup id = some (.ok found)) :
    (evaluate lookup order w).2.lookups = w.lookups ++ order := by
  induction order generalizing w with
  | nil => simp [evaluate]
  | cons first order ih =>
      obtain ⟨hfirst, nodup⟩ := List.nodup_cons.1 nodup
      rw [evaluate] at answered ⊢
      dsimp only at answered ⊢
      obtain ⟨found, hfound⟩ := answered first List.mem_cons_self
      rw [List.lookup_cons_self, Option.some.injEq] at hfound
      rw [ih nodup, query_lookups hfound, List.append_assoc, List.singleton_append]
      intro id hid
      have hne : (id == first) = false := by
        rw [beq_eq_false_iff_ne]
        rintro rfl
        exact hfirst hid
      simpa [List.lookup_cons, hne] using answered id (List.mem_cons_of_mem _ hid)

theorem collect_answered {outcomes : List (String × Except Interrupt (List String))}
    {ids : List String} {direct : CallersMap}
    (evaluated : ∀ id ∈ ids, ∃ outcome, outcomes.lookup id = some outcome)
    (h : collect outcomes ids = .ok direct) :
    ∀ id ∈ ids, ∃ found, outcomes.lookup id = some (.ok found) := by
  induction ids generalizing direct with
  | nil => simp
  | cons first ids ih =>
      obtain ⟨outcome, houtcome⟩ := evaluated first List.mem_cons_self
      rw [collect, houtcome, Option.getD_some] at h
      split at h
      · cases h
      · rename_i found
        split at h
        · cases h
        · rename_i rest hrest
          intro id hid
          rcases List.mem_cons.1 hid with rfl | hid
          · exact ⟨found, houtcome⟩
          · exact ih (fun id hid => evaluated id (List.mem_cons_of_mem _ hid)) hrest id hid

theorem gather_of_alone {pool : Pool} (alone : pool.workers ≤ 1) (lookup : Lookup)
    (ids : List String) (w : Walk) :
    gather lookup pool ids w = gatherEach lookup (Text.sortedTexts ids) w := by
  rw [gather, if_pos (Or.inl alone)]

/-- Every method that is gathered has been looked up once. -/
theorem gather_lookups {lookup : Lookup} {pool : Pool} {ids : List String} {w w' : Walk}
    {direct : CallersMap} (h : gather lookup pool ids w = (.ok direct, w')) :
    ∃ order, w'.lookups = w.lookups ++ order ∧ order.Perm (Text.sortedTexts ids) ∧
      (pool.KeepsOrder → order = Text.sortedTexts ids) := by
  unfold gather at h
  dsimp only at h
  split at h
  · exact ⟨_, gatherEach_lookups h, .refl _, fun _ => rfl⟩
  · rename_i hpooled
    have hperm := pool.schedule.perm w.lookups.length (Text.sortedTexts ids)
    obtain ⟨hcollect, rfl⟩ := Prod.mk.inj h
    have hanswered := collect_answered
      (fun id hid => (evaluate_lookup (hperm.mem_iff.2 hid)).imp fun _ => And.left) hcollect
    refine ⟨_, ?_, hperm, ?_⟩
    · refine evaluate_lookups (hperm.nodup_iff.2 (Text.sortedTexts_nodup ids)) ?_
      intro id hid
      exact hanswered id (hperm.mem_iff.1 hid)
    · rintro (hworkers | hkeeps)
      · exact absurd (Or.inl hworkers) hpooled
      · exact hkeeps _ _

/-- What is gathered are the pairs that the lookup gives for the methods. -/
theorem mem_gathered {lookup : Lookup} {pool : Pool} {ids : List String} {w w' : Walk}
    {direct : CallersMap} (h : gather lookup pool ids w = (.ok direct, w')) :
    (∀ id, id ∈ direct.keys ↔ id ∈ ids) ∧
      ∀ id found x, lookup id = .ok found →
        ((∃ entry ∈ direct, id = entry.1 ∧ x ∈ entry.2) ↔ id ∈ ids ∧ x ∈ found) := by
  obtain ⟨hsorted, hentries⟩ := gather_ok h
  have hkeys : ∀ id, id ∈ direct.keys ↔ id ∈ ids := by
    intro id
    rw [CallersMap.keys, hsorted, Text.mem_sortedTexts]
  refine ⟨hkeys, ?_⟩
  intro id found x hlookup
  constructor
  · rintro ⟨entry, hentry, rfl, hx⟩
    rw [hentries entry hentry] at hlookup
    exact ⟨(hkeys entry.1).1 (List.mem_map_of_mem hentry), Except.ok.inj hlookup ▸ hx⟩
  · rintro ⟨hid, hx⟩
    obtain ⟨entry, hentry, rfl⟩ := List.mem_map.1 ((hkeys id).2 hid)
    rw [hentries entry hentry] at hlookup
    exact ⟨entry, hentry, rfl, Except.ok.inj hlookup ▸ hx⟩

theorem query_calm {lookup : Lookup} {id : String} {w : Walk} {found : List String}
    (calm : w.Calm) (h : lookup id = .ok found) :
    ∃ w', w.query lookup id = (.ok found, w') ∧ w'.Calm := by
  refine ⟨⟨.never, w.lookups ++ [id]⟩, ?_, rfl⟩
  obtain ⟨token, made⟩ := w
  obtain rfl : token = .never := calm
  simp only [Walk.query, Token.never, Token.check, h]

theorem gatherEach_calm {lookup : Lookup} {ids : List String} {w : Walk} (calm : w.Calm)
    (answers : ∀ id ∈ ids, ∃ found, lookup id = .ok found) :
    ∃ direct w', gatherEach lookup ids w = (.ok direct, w') ∧ w'.Calm := by
  induction ids generalizing w with
  | nil => exact ⟨[], w, rfl, calm⟩
  | cons id ids ih =>
      obtain ⟨found, hfound⟩ := answers id List.mem_cons_self
      obtain ⟨w₁, hquery, calm⟩ := query_calm calm hfound
      obtain ⟨rest, w₂, hrest, calm⟩ :=
        ih calm fun id hid => answers id (List.mem_cons_of_mem _ hid)
      refine ⟨(id, found) :: rest, w₂, ?_, calm⟩
      rw [gatherEach, hquery]
      simp only [hrest]

theorem evaluate_calm {lookup : Lookup} {order : List String} {w : Walk} (calm : w.Calm)
    (answers : ∀ id ∈ order, ∃ found, lookup id = .ok found) :
    (evaluate lookup order w).2.Calm ∧
      ∀ id ∈ order, ∃ found, (evaluate lookup order w).1.lookup id = some (.ok found) := by
  induction order generalizing w with
  | nil => exact ⟨calm, by simp⟩
  | cons first order ih =>
      obtain ⟨found, hfound⟩ := answers first List.mem_cons_self
      obtain ⟨w₁, hquery, calm⟩ := query_calm calm hfound
      obtain ⟨calm, houtcomes⟩ := ih calm fun id hid => answers id (List.mem_cons_of_mem _ hid)
      rw [evaluate, hquery]
      refine ⟨calm, ?_⟩
      intro id hid
      dsimp only
      rw [List.lookup_cons]
      by_cases heq : id = first
      · exact ⟨found, by simp [heq]⟩
      · have hne : (id == first) = false := by simpa using heq
        rw [hne]
        exact houtcomes id (by simpa [heq] using hid)

theorem collect_isOk {outcomes : List (String × Except Interrupt (List String))}
    {ids : List String} (answered : ∀ id ∈ ids, ∃ found, outcomes.lookup id = some (.ok found)) :
    ∃ direct, collect outcomes ids = .ok direct := by
  induction ids with
  | nil => exact ⟨[], rfl⟩
  | cons id ids ih =>
      obtain ⟨found, hfound⟩ := answered id List.mem_cons_self
      obtain ⟨rest, hrest⟩ := ih fun id hid => answered id (List.mem_cons_of_mem _ hid)
      refine ⟨(id, found) :: rest, ?_⟩
      rw [collect, hfound, Option.getD_some, hrest]

/-- Nothing but a cancelled token or a lookup without an answer interrupts a gathering. -/
theorem gather_calm {lookup : Lookup} (pool : Pool) {ids : List String} {w : Walk} (calm : w.Calm)
    (answers : ∀ id ∈ ids, ∃ found, lookup id = .ok found) :
    ∃ direct w', gather lookup pool ids w = (.ok direct, w') ∧ w'.Calm := by
  have answers : ∀ id ∈ Text.sortedTexts ids, ∃ found, lookup id = .ok found :=
    fun id hid => answers id (Text.mem_sortedTexts.1 hid)
  unfold gather
  dsimp only
  split
  · exact gatherEach_calm calm answers
  · have hperm := pool.schedule.perm w.lookups.length (Text.sortedTexts ids)
    obtain ⟨calm, houtcomes⟩ :=
      evaluate_calm calm fun id hid => answers id (hperm.mem_iff.1 hid)
    obtain ⟨direct, hdirect⟩ := collect_isOk fun id hid => houtcomes id (hperm.mem_iff.2 hid)
    exact ⟨direct, _, Prod.ext hdirect rfl, calm⟩

end Traversal

end CallAtlas
