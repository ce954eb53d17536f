import CallAtlas.CallersMap
import CallAtlas.Cancellation
import CallAtlas.Resolver.Basic
import CallAtlas.Text.Sorted

/-!
# Gathering

Looking up the neighbours of a set of methods, in the order of their IDs, with a look at the token
before each lookup.  The lookups run one after the other or on a pool of workers; a pool may evaluate
them in any order, but their results are collected in the order of the IDs.
-/

namespace CallAtlas

/-- A lookup of the neighbours of a method. -/
abbrev Lookup := String → Except QueryError (List String)

/-- Why an analysis stops early. -/
inductive Interrupt where
  | cancelled
  | failed (e : QueryError)

/-- What an analysis has done so far: its token and the lookups it has made, in order. -/
structure Walk where
  token : Token
  lookups : List String

namespace Walk

def start (token : Token) : Walk := ⟨token, []⟩

def check (w : Walk) : Except Interrupt Unit × Walk :=
  match w.token.check with
  | none => (.error .cancelled, w)
  | some t => (.ok (), { w with token := t })

/-- Looks at the token, then makes a lookup. -/
def query (lookup : Lookup) (id : String) (w : Walk) : Except Interrupt (List String) × Walk :=
  match w.token.check with
  | none => (.error .cancelled, w)
  | some t =>
    let w : Walk := ⟨t, w.lookups ++ [id]⟩
    match lookup id with
    | .ok ids => (.ok ids, w)
    | .error e => (.error (.failed e), w)

end Walk

/-- The order in which the workers of a pool take up the lookups that they are given, which may
depend on how many lookups were made before. -/
structure Schedule where
  order : Nat → List String → List String
  perm : ∀ made ids, (order made ids).Perm ids

/-- The schedule that keeps the order in which lookups are given. -/
def Schedule.given : Schedule := ⟨fun _ ids => ids, fun _ ids => .refl ids⟩

/-- The workers that make lookups. -/
structure Pool where
  workers : Int
  schedule : Schedule

namespace Traversal

/-- Looks up methods one after the other and stops at the first interruption. -/
def gatherEach (lookup : Lookup) : List String → Walk → Except Interrupt CallersMap × Walk
  | [], w => (.ok [], w)
  | id :: ids, w =>
    match w.query lookup id with
    | (.error i, w) => (.error i, w)
    | (.ok found, w) =>
      match gatherEach lookup ids w with
      | (.error i, w) => (.error i, w)
      | (.ok rest, w) => (.ok ((id, found) :: rest), w)

/-- Evaluates lookups in the given order; an interruption of one does not keep the others from being
evaluated. -/
def evaluate (lookup : Lookup) : List String → Walk →
    List (String × Except Interrupt (List String)) × Walk
  | [], w => ([], w)
  | id :: ids, w =>
    let (outcome, w) := w.query lookup id
    let (rest, w) := evaluate lookup ids w
    ((id, outcome) :: rest, w)

/-- Collects the outcomes of lookups; the first interruption in the given order counts. -/
def collect (outcomes : List (String × Except Interrupt (List String))) :
    List String → Except Interrupt CallersMap
  | [] => .ok []
  | id :: ids =>
    match (outcomes.lookup id).getD (.ok []) with
    | .error i => .error i
    | .ok found =>
      match collect outcomes ids with
      | .error i => .error i
      | .ok rest => .ok ((id, found) :: rest)

/-- Looks up methods on a pool that evaluates them in the given order. -/
def gatherPooled (lookup : Lookup) (order ids : List String) (w : Walk) :
    Except Interrupt CallersMap × Walk :=
  let (outcomes, w) := evaluate lookup order w
  (collect outcomes ids, w)

/-- Looks up a set of methods.  A single worker, or a single method, needs no pool. -/
def gather (lookup : Lookup) (pool : Pool) (ids : List String) (w : Walk) :
    Except Interrupt CallersMap × Walk :=
  let ordered := Text.sortedTexts ids
  if pool.workers ≤ 1 ∨ ordered.length ≤ 1 then gatherEach lookup ordered w
  else gatherPooled lookup (pool.schedule.order w.lookups.length ordered) ordered w

/-! ## What is gathered was looked up -/

theorem query_ok {lookup : Lookup} {id : String} {w : Walk} {found : List String}
    (h : (w.query lookup id).1 = .ok found) : lookup id = .ok found := by
  unfold Walk.query at h
  split at h
  · cases h
  · dsimp only at h
    split at h
    · rename_i ids hids
      rw [hids, Except.ok.inj h]
    · cases h

theorem gatherEach_ok {lookup : Lookup} {ids : List String} {w w' : Walk} {direct : CallersMap}
    (h : gatherEach lookup ids w = (.ok direct, w')) :
    direct.map (·.1) = ids ∧ ∀ entry ∈ direct, lookup entry.1 = .ok entry.2 := by
  induction ids generalizing w w' direct with
  | nil =>
    obtain rfl := Except.ok.inj (Prod.mk.inj h).1
    exact ⟨rfl, by simp⟩
  | cons id ids ih =>
    rw [gatherEach] at h
    split at h
    · cases h
    · rename_i found w₁ hquery
      have hfound : lookup id = .ok found := query_ok (by rw [hquery])
      split at h
      · cases h
      · rename_i rest w₂ hrest
        obtain rfl := Except.ok.inj (Prod.mk.inj h).1
        obtain ⟨hkeys, hentries⟩ := ih hrest
        refine ⟨by simp [hkeys], ?_⟩
        intro entry hentry
        rcases List.mem_cons.1 hentry with rfl | hentry
        · exact hfound
        · exact hentries entry hentry

/-- Everything in the order is evaluated, and an outcome is what is looked up. -/
theorem evaluate_lookup {lookup : Lookup} {order : List String} {w : Walk} {id : String}
    (h : id ∈ order) :
    ∃ outcome, (evaluate lookup order w).1.lookup id = some outcome ∧
      ∀ found, outcome = .ok found → lookup id = .ok found := by
  induction order generalizing w with
  | nil => cases h
  | cons first order ih =>
    rw [evaluate, List.lookup_cons]
    by_cases hid : id = first
    · subst hid
      refine ⟨(w.query lookup id).1, by simp, ?_⟩
      intro found hfound
      exact query_ok hfound
    · have hmem : id ∈ order := by simpa [hid] using h
      have hne : (id == first) = false := by simpa using hid
      rw [hne]
      exact ih hmem

theorem collect_ok {outcomes : List (String × Except Interrupt (List String))} {lookup : Lookup}
    {ids : List String} {direct : CallersMap}
    (houtcomes : ∀ id ∈ ids, ∃ outcome, outcomes.lookup id = some outcome ∧
      ∀ found, outcome = .ok found → lookup id = .ok found)
    (h : collect outcomes ids = .ok direct) :
    direct.map (·.1) = ids ∧ ∀ entry ∈ direct, lookup entry.1 = .ok entry.2 := by
  induction ids generalizing direct with
  | nil =>
    obtain rfl := Except.ok.inj h
    exact ⟨rfl, by simp⟩
  | cons id ids ih =>
    obtain ⟨outcome, houtcome, hlookup⟩ := houtcomes id List.mem_cons_self
    rw [collect, houtcome, Option.getD_some] at h
    split at h
    · cases h
    · rename_i found
      split at h
      · cases h
      · rename_i rest hrest
        obtain rfl := Except.ok.inj h
        obtain ⟨hkeys, hentries⟩ :=
          ih (fun id hid => houtcomes id (List.mem_cons_of_mem _ hid)) hrest
        refine ⟨by simp [hkeys], ?_⟩
        intro entry hentry
        rcases List.mem_cons.1 hentry with rfl | hentry
        · exact hlookup found rfl
        · exact hentries entry hentry

/-- What is gathered has the methods in order as its keys, each with what is looked up for it,
whoever makes the lookups. -/
theorem gather_ok {lookup : Lookup} {pool : Pool} {ids : List String} {w w' : Walk}
    {direct : CallersMap} (h : gather lookup pool ids w = (.ok direct, w')) :
    direct.map (·.1) = Text.sortedTexts ids ∧
      ∀ entry ∈ direct, lookup entry.1 = .ok entry.2 := by
  unfold gather at h
  dsimp only at h
  split at h
  · exact gatherEach_ok h
  · refine collect_ok (fun id hid => evaluate_lookup ?_) (Prod.mk.inj h).1
    exact (pool.schedule.perm _ _).mem_iff.2 hid

end Traversal

end CallAtlas
