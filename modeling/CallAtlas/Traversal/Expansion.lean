import CallAtlas.Traversal.Gather

/-!
# Expansion

Everything that can be reached from a set of methods, one distance level at a time.  A method is
looked up at most once, except that a method of the start set is looked up even if it counts as seen,
so the expansion ends on cyclic relations too.  It may be without end on an infinite relation, so an
expansion is carried out along a proof that it ends.
-/

namespace CallAtlas.Traversal

/-- State of an expansion. -/
structure Expansion where
  /-- The neighbours found so far. -/
  found : CallersMap
  /-- Methods that are not expanded again. -/
  seen : List String
  /-- Methods to expand next. -/
  frontier : List String

/-- The neighbours in a map that have not been seen, each once. -/
def nextFrontier (direct : CallersMap) (seen : List String) : List String :=
  ((direct.flatMap (·.2)).filter fun id => !seen.contains id).eraseDups

def Expansion.advance (e : Expansion) (direct : CallersMap) : Expansion :=
  let seen := CallersMap.union e.seen e.frontier
  { found := CallersMap.merge (CallersMap.merge [] e.found) direct
    seen := seen
    frontier := nextFrontier direct seen }

/-- A completed level leads from a state of an expansion to the next one. -/
structure Next (lookup : Lookup) (pool : Pool) (after before : Expansion × Walk) : Prop where
  pending : before.1.frontier ≠ []
  advanced : ∃ direct, gather lookup pool before.1.frontier before.2 = (.ok direct, after.2) ∧
    after.1 = before.1.advance direct

/-- The expansion from a state comes to an end. -/
def Ends (lookup : Lookup) (pool : Pool) (e : Expansion) (w : Walk) : Prop :=
  Acc (Next lookup pool) (e, w)

/-- States whose expansion ends, in the order of the levels. -/
instance ending (lookup : Lookup) (pool : Pool) :
    WellFoundedRelation {s : Expansion × Walk // Ends lookup pool s.1 s.2} where
  rel after before := Next lookup pool after.1 before.1
  wf := ⟨fun ⟨_, ends⟩ => InvImage.accessible Subtype.val ends⟩

/-- Expands level by level until no method is left.  The state is that after the last level that was
gathered completely. -/
def levels (lookup : Lookup) (pool : Pool) (e : Expansion) (w : Walk) (ends : Ends lookup pool e w) :
    Except Interrupt Unit × Expansion × Walk :=
  if pending : e.frontier = [] then (.ok (), e, w)
  else
    match gathered : gather lookup pool e.frontier w with
    | (.error i, w) => (.error i, e, w)
    | (.ok direct, after) =>
      levels lookup pool (e.advance direct) after (ends.inv ⟨pending, direct, gathered, rfl⟩)
termination_by (⟨(e, w), ends⟩ : {s : Expansion × Walk // Ends lookup pool s.1 s.2})
decreasing_by exact Next.mk pending ⟨direct, gathered, rfl⟩

/-- Result of an expansion: the map it found, unless it was interrupted, and the methods seen. -/
structure Expanded where
  result : Except Interrupt CallersMap
  seen : List String
  walk : Walk

def Expanded.ofLevels : Except Interrupt Unit × Expansion × Walk → Expanded
  | (.ok (), e, w) => ⟨.ok e.found, e.seen, w⟩
  | (.error i, e, w) => ⟨.error i, e.seen, w⟩

def Expansion.start (start seen : List String) : Expansion := ⟨[], seen, start.eraseDups⟩

def expand (lookup : Lookup) (pool : Pool) (start seen : List String) (w : Walk)
    (ends : Ends lookup pool (.start start seen) w) : Expanded :=
  .ofLevels (levels lookup pool (.start start seen) w ends)

/-! ## Expansions end -/

@[simp]
theorem mem_nextFrontier {direct : CallersMap} {seen : List String} {id : String} :
    id ∈ nextFrontier direct seen ↔ (∃ entry ∈ direct, id ∈ entry.2) ∧ id ∉ seen := by
  simp [nextFrontier, List.mem_eraseDups]

@[simp]
theorem mem_advance_seen {e : Expansion} {direct : CallersMap} {id : String} :
    id ∈ (e.advance direct).seen ↔ id ∈ e.seen ∨ id ∈ e.frontier := by
  simp [Expansion.advance]

@[simp]
theorem mem_advance_frontier {e : Expansion} {direct : CallersMap} {id : String} :
    id ∈ (e.advance direct).frontier ↔
      (∃ entry ∈ direct, id ∈ entry.2) ∧ id ∉ (e.advance direct).seen :=
  mem_nextFrontier

/-- The neighbours of the frontier and of `rest` are in `rest` unless they are seen or about to
be. -/
def Expansion.BoundedBy (e : Expansion) (lookup : Lookup) (rest : List String) : Prop :=
  ∀ id ids, id ∈ e.frontier ∨ id ∈ rest → lookup id = .ok ids →
    ∀ x ∈ ids, x ∈ e.seen ∨ x ∈ e.frontier ∨ x ∈ rest

section

variable {lookup : Lookup} {pool : Pool} {e : Expansion} {w w' : Walk} {rest : List String}
  {direct : CallersMap}

theorem Expansion.BoundedBy.mem_of_mem_frontier (bounded : e.BoundedBy lookup rest)
    (gathered : gather lookup pool e.frontier w = (.ok direct, w')) :
    ∀ x ∈ (e.advance direct).frontier, x ∈ rest := by
  intro x hx
  obtain ⟨hkeys, hentries⟩ := gather_ok gathered
  obtain ⟨⟨entry, hentry, hx⟩, hseen⟩ := mem_advance_frontier.1 hx
  have hkey : entry.1 ∈ e.frontier := by
    rw [← Text.mem_sortedTexts, ← hkeys]
    exact List.mem_map_of_mem hentry
  rw [mem_advance_seen] at hseen
  rcases bounded entry.1 entry.2 (.inl hkey) (hentries entry hentry) x hx with h | h | h
  · exact absurd (Or.inl h) hseen
  · exact absurd (Or.inr h) hseen
  · exact h

/-- A level takes the methods of the next frontier out of the bound. -/
theorem Expansion.BoundedBy.advance (bounded : e.BoundedBy lookup rest)
    (gathered : gather lookup pool e.frontier w = (.ok direct, w')) :
    (e.advance direct).BoundedBy lookup
      (rest.filter (!(e.advance direct).frontier.contains ·)) := by
  intro id ids hid hlookup x hx
  have hid : id ∈ rest := by
    rcases hid with hid | hid
    · exact bounded.mem_of_mem_frontier gathered id hid
    · exact (List.mem_filter.1 hid).1
  rcases bounded id ids (.inr hid) hlookup x hx with h | h | h
  · exact .inl (mem_advance_seen.2 (.inl h))
  · exact .inl (mem_advance_seen.2 (.inr h))
  · by_cases hxf : x ∈ (e.advance direct).frontier
    · exact .inr (.inl hxf)
    · exact .inr (.inr (List.mem_filter.2 ⟨h, by simpa using hxf⟩))

theorem length_filter_frontier_lt {frontier : List String} (hsubset : ∀ x ∈ frontier, x ∈ rest)
    (hne : frontier ≠ []) :
    (rest.filter (!frontier.contains ·)).length < rest.length := by
  obtain ⟨x, hx⟩ := List.exists_mem_of_ne_nil _ hne
  have hle := List.length_filter_le (!frontier.contains ·) rest
  have hlength : (rest.filter (!frontier.contains ·)).length ≠ rest.length := by
    intro heq
    have hall := List.length_filter_eq_length_iff.1 heq x (hsubset x hx)
    simp [hx] at hall
  omega

theorem ends_of_frontier_eq_nil (pool : Pool) (w : Walk) (hempty : e.frontier = []) :
    Ends lookup pool e w := by
  constructor
  rintro after ⟨pending, -⟩
  exact absurd hempty pending

/-- A bounded expansion ends, since every further level makes the bound smaller. -/
theorem Expansion.BoundedBy.ends (pool : Pool) (w : Walk) (bounded : e.BoundedBy lookup rest) :
    Ends lookup pool e w := by
  induction hn : rest.length using Nat.strongRecOn generalizing rest e w with
  | ind n ih =>
    constructor
    rintro ⟨e', w'⟩ ⟨-, direct, gathered, heq⟩
    obtain rfl : e' = e.advance direct := heq
    by_cases hempty : (e.advance direct).frontier = []
    · exact ends_of_frontier_eq_nil pool w' hempty
    · have hlt := length_filter_frontier_lt (bounded.mem_of_mem_frontier gathered) hempty
      exact ih _ (hn ▸ hlt) w' (bounded.advance gathered) rfl

end

theorem ends_of_finite {lookup : Lookup} (ids : List String) (pool : Pool)
    (start seen : List String) (w : Walk)
    (finite : ∀ id found, lookup id = .ok found → ∀ x ∈ found, x ∈ ids) :
    Ends lookup pool (.start start seen) w := by
  have bounded : (Expansion.start start seen).BoundedBy lookup ids := by
    intro id found _ hlookup x hx
    exact .inr (.inr (finite id found hlookup x hx))
  exact bounded.ends pool w

end CallAtlas.Traversal
