import CallAtlas.Proofs.Gathering
import CallAtlas.Traversal.Expansion
import Mathlib.Data.Set.Finite.Basic
import Mathlib.Logic.Relation

/-!
# Expansion reaches what is reachable

An expansion is compared with paths in the relation that its lookup describes.  A path starts
anywhere in the start set, and every further method on it has not been seen at the beginning.
After `n` levels the expansion has found the methods at a distance below `n`, and its frontier holds
those at distance `n`.
-/

namespace CallAtlas.Traversal

section Paths

variable (lookup : Lookup) (start seen : List String)

/-- A method at the end of a path with the given number of lookups. -/
inductive PathTo : Nat → String → Prop where
  | start {id : String} (mem : id ∈ start) : PathTo 0 id
  | step {n : Nat} {via id : String} {ids : List String} (path : PathTo n via)
      (found : lookup via = .ok ids) (mem : id ∈ ids) (fresh : id ∉ seen) : PathTo (n + 1) id

/-- A method at the end of some path. -/
def Reachable (id : String) : Prop := ∃ n, PathTo lookup start seen n id

/-- A method whose shortest path has the given number of lookups. -/
def AtDistance (n : Nat) (id : String) : Prop :=
  PathTo lookup start seen n id ∧ ∀ k < n, ¬ PathTo lookup start seen k id

/-- A list of exactly the methods at a distance, each of them once, and in order if the lookups of a
level are made in order. -/
structure Enumerates (pool : Pool) (n : Nat) (level : List String) : Prop where
  mem_iff : ∀ id, id ∈ level ↔ AtDistance lookup start seen n id
  nodup : level.Nodup
  ascending : pool.KeepsOrder → level.Pairwise (· < ·)

end Paths

section

variable {lookup : Lookup} {pool : Pool} {start seen : List String}

theorem PathTo.shortest {n : Nat} {id : String} (path : PathTo lookup start seen n id) :
    ∃ k ≤ n, AtDistance lookup start seen k id := by
  classical
  have hex : ∃ k, PathTo lookup start seen k id := ⟨n, path⟩
  exact ⟨Nat.find hex, Nat.find_min' hex path, Nat.find_spec hex, fun k hk => Nat.find_min hex hk⟩

theorem PathTo.lt_succ_iff {n : Nat} {id : String} :
    (∃ j < n + 1, PathTo lookup start seen j id) ↔
      (∃ j < n, PathTo lookup start seen j id) ∨ AtDistance lookup start seen n id := by
  constructor
  · rintro ⟨j, hj, path⟩
    obtain ⟨k, hk, hat⟩ := path.shortest
    rcases Nat.lt_or_ge k n with hlt | hge
    · exact .inl ⟨k, hlt, hat.1⟩
    · obtain rfl : k = n := by omega
      exact .inr hat
  · rintro (⟨j, hj, path⟩ | hat)
    · exact ⟨j, by omega, path⟩
    · exact ⟨n, by omega, hat.1⟩

/-- A method is one lookup further away than another exactly if it is a new neighbour of one at that
distance. -/
theorem atDistance_succ_iff {n : Nat} {id : String} :
    AtDistance lookup start seen (n + 1) id ↔
      (∃ via ids, AtDistance lookup start seen n via ∧ lookup via = .ok ids ∧ id ∈ ids) ∧
        id ∉ seen ∧ ¬ ∃ j < n + 1, PathTo lookup start seen j id := by
  constructor
  · rintro ⟨path, hmin⟩
    cases path with
    | step path found mem fresh =>
        refine ⟨⟨_, _, ⟨path, ?_⟩, found, mem⟩, fresh, ?_⟩
        · intro k hk hpath
          exact hmin (k + 1) (by omega) (.step hpath found mem fresh)
        · rintro ⟨j, hj, hpath⟩
          exact hmin j hj hpath
  · rintro ⟨⟨via, ids, hvia, found, mem⟩, fresh, hnone⟩
    exact ⟨.step hvia.1 found mem fresh, fun k hk path => hnone ⟨k, hk, path⟩⟩

theorem atDistance_zero_iff {id : String} : AtDistance lookup start seen 0 id ↔ id ∈ start := by
  constructor
  · rintro ⟨path, -⟩
    cases path with
    | start mem => exact mem
  · intro mem
    exact ⟨.start mem, fun k hk => absurd hk (Nat.not_lt_zero k)⟩

def Neighbour (lookup : Lookup) (id other : String) : Prop :=
  ∃ ids, lookup id = .ok ids ∧ other ∈ ids

/-- From a single method, with nothing seen, exactly the chains of neighbours can be followed. -/
theorem reachable_iff_chain {focus id : String} :
    Reachable lookup [focus] [] id ↔ Relation.ReflTransGen (Neighbour lookup) focus id := by
  constructor
  · rintro ⟨n, path⟩
    induction path with
    | start mem =>
        obtain rfl := List.mem_singleton.1 mem
        exact .refl
    | step _ found mem _ ih => exact ih.tail ⟨_, found, mem⟩
  · intro chain
    induction chain with
    | refl => exact ⟨0, .start (List.mem_singleton_self focus)⟩
    | tail _ hop ih =>
        obtain ⟨n, path⟩ := ih
        obtain ⟨ids, found, mem⟩ := hop
        exact ⟨n + 1, .step path found mem List.not_mem_nil⟩

/-! ## Levels as a run -/

/-- Completed levels lead from one state of an expansion to another. -/
inductive Levels (lookup : Lookup) (pool : Pool) :
    Expansion → Walk → Expansion → Walk → Prop where
  | refl (e : Expansion) (w : Walk) : Levels lookup pool e w e w
  | level {e last : Expansion} {w next end' : Walk} {direct : CallersMap}
      (pending : e.frontier ≠ [])
      (gathered : gather lookup pool e.frontier w = (.ok direct, next))
      (rest : Levels lookup pool (e.advance direct) next last end') :
      Levels lookup pool e w last end'

/-- An expansion completes levels, after which either its frontier is empty or the next level is
interrupted. -/
theorem levels_run {e : Expansion} {w : Walk} (ends : Ends lookup pool e w) :
    ∃ last w', Levels lookup pool e w last w' ∧
      (last.frontier = [] ∧ levels lookup pool e w ends = (.ok (), last, w') ∨
        ∃ i w'', gather lookup pool last.frontier w' = (.error i, w'') ∧
          levels lookup pool e w ends = (.error i, last, w'')) := by
  fun_induction levels lookup pool e w ends with
  | case1 e w ends hempty => exact ⟨e, w, .refl e w, .inl ⟨hempty, rfl⟩⟩
  | case2 e w ends pending i next gathered => exact ⟨e, w, .refl e w, .inr ⟨i, next, gathered, rfl⟩⟩
  | case3 e w ends pending direct next gathered ih =>
      obtain ⟨last, w', hlevels, hend⟩ := ih
      exact ⟨last, w', .level pending gathered hlevels, hend⟩

theorem levels_of_nil {e : Expansion} {w : Walk} (ends : Ends lookup pool e w)
    (hempty : e.frontier = []) : levels lookup pool e w ends = (.ok (), e, w) := by
  rw [levels, dif_pos hempty]

theorem levels_of_error {e : Expansion} {w next : Walk} {i : Interrupt}
    (ends : Ends lookup pool e w) (pending : e.frontier ≠ [])
    (gathered : gather lookup pool e.frontier w = (.error i, next)) :
    levels lookup pool e w ends = (.error i, e, next) := by
  rw [levels, dif_neg pending]
  split
  · rename_i heq
    rw [gathered] at heq
    cases heq
    rfl
  · rename_i heq
    rw [gathered] at heq
    cases heq

theorem levels_of_ok {e : Expansion} {w next : Walk} {direct : CallersMap}
    (ends : Ends lookup pool e w) (pending : e.frontier ≠ [])
    (gathered : gather lookup pool e.frontier w = (.ok direct, next)) :
    levels lookup pool e w ends = levels lookup pool (e.advance direct) next
      (ends.inv ⟨pending, direct, gathered, rfl⟩) := by
  rw [levels, dif_neg pending]
  split
  · rename_i heq
    rw [gathered] at heq
    cases heq
  · rename_i heq
    rw [gathered] at heq
    cases heq
    rfl

/-- What an expansion has done after as many levels as its log has, the lookups `made` apart. -/
structure Progress (lookup : Lookup) (pool : Pool) (start seen made : List String)
    (log : List (List String)) (e : Expansion) (w : Walk) : Prop where
  lookups : w.lookups = made ++ log.flatten
  enumerates : ∀ n level, log[n]? = some level → Enumerates lookup start seen pool n level
  log_nodup : log.flatten.Nodup
  mem_log : ∀ id, id ∈ log.flatten ↔ ∃ j < log.length, PathTo lookup start seen j id
  mem_frontier : ∀ id, id ∈ e.frontier ↔ AtDistance lookup start seen log.length id
  mem_seen : ∀ id, id ∈ e.seen ↔ id ∈ seen ∨ id ∈ log.flatten
  mem_keys : ∀ id, id ∈ e.found.keys ↔ id ∈ log.flatten
  callers : ∀ id ∈ log.flatten, ∃ ids, lookup id = .ok ids ∧
    ∀ x, x ∈ e.found.callersOf id ↔ x ∈ ids
  wellFormed : e.found.WellFormed

theorem progress_start (w : Walk) :
    Progress lookup pool start seen w.lookups [] (.start start seen) w where
  lookups := by simp
  enumerates := by simp
  log_nodup := List.nodup_nil
  mem_log := by simp
  mem_frontier id := by
    rw [Expansion.start, List.mem_eraseDups]
    exact atDistance_zero_iff.symm
  mem_seen := by simp [Expansion.start]
  mem_keys := by simp [Expansion.start, CallersMap.keys]
  callers := by simp
  wellFormed := .nil

theorem mem_keys_advance {e : Expansion} {direct : CallersMap} {id : String} :
    id ∈ (e.advance direct).found.keys ↔ id ∈ e.found.keys ∨ id ∈ direct.keys := by
  rw [Expansion.advance, CallersMap.mem_keys_merge, CallersMap.mem_keys_merge]
  simp [CallersMap.keys]

theorem mem_callersOf_advance {e : Expansion} (h : e.found.WellFormed) {direct : CallersMap}
    {id x : String} :
    x ∈ (e.advance direct).found.callersOf id ↔
      x ∈ e.found.callersOf id ∨ ∃ entry ∈ direct, id = entry.1 ∧ x ∈ entry.2 := by
  rw [Expansion.advance, CallersMap.mem_callersOf_merge, CallersMap.mem_callersOf_merge,
    h.mem_callersOf_iff]
  simp [CallersMap.callersOf]

/-- The next frontier are the new neighbours of the methods at the present distance. -/
theorem Progress.mem_next_frontier {made : List String} {log : List (List String)} {e : Expansion}
    {w next : Walk} {direct : CallersMap}
    (progress : Progress lookup pool start seen made log e w)
    (gathered : gather lookup pool e.frontier w = (.ok direct, next)) (id : String) :
    id ∈ (e.advance direct).frontier ↔ AtDistance lookup start seen (log.length + 1) id := by
  obtain ⟨hkeys, hpairs⟩ := mem_gathered gathered
  obtain ⟨-, hentries⟩ := gather_ok gathered
  rw [mem_advance_frontier, mem_advance_seen, progress.mem_seen, progress.mem_frontier,
    atDistance_succ_iff, PathTo.lt_succ_iff, progress.mem_log, not_or, not_or, not_or, and_assoc]
  refine and_congr_left' ?_
  constructor
  · rintro ⟨entry, hentry, hid⟩
    have hvia := (hkeys entry.1).1 (List.mem_map_of_mem hentry)
    exact ⟨entry.1, entry.2, (progress.mem_frontier _).1 hvia, hentries entry hentry, hid⟩
  · rintro ⟨via, ids, hvia, hlookup, hid⟩
    have hvia := (progress.mem_frontier via).2 hvia
    obtain ⟨entry, hentry, -, hid⟩ := (hpairs via ids id hlookup).2 ⟨hvia, hid⟩
    exact ⟨entry, hentry, hid⟩

/-- A method has only one distance, so those of the frontier have not been looked up. -/
theorem Progress.notMem_log_of_mem_frontier {made : List String} {log : List (List String)}
    {e : Expansion} {w : Walk} (progress : Progress lookup pool start seen made log e w)
    {id : String} (hid : id ∈ e.frontier) : id ∉ log.flatten := by
  intro hlog
  obtain ⟨j, hj, path⟩ := (progress.mem_log id).1 hlog
  exact ((progress.mem_frontier id).1 hid).2 j hj path

/-- One more level adds the methods at the next distance to the log and to the map. -/
theorem Progress.advance {made : List String} {log : List (List String)} {e : Expansion}
    {w next : Walk} {direct : CallersMap}
    (progress : Progress lookup pool start seen made log e w)
    (gathered : gather lookup pool e.frontier w = (.ok direct, next)) :
    ∃ level, Progress lookup pool start seen made (log ++ [level]) (e.advance direct) next := by
  obtain ⟨hkeys, hpairs⟩ := mem_gathered gathered
  obtain ⟨level, hlookups, hperm, hkeeps⟩ := gather_lookups gathered
  have hlevel : ∀ id, id ∈ level ↔ id ∈ e.frontier := by
    intro id
    rw [hperm.mem_iff, Text.mem_sortedTexts]
  have hnodup : level.Nodup := hperm.nodup_iff.2 (Text.sortedTexts_nodup _)
  have hreached : ∀ id, id ∈ (log ++ [level]).flatten ↔ id ∈ log.flatten ∨ id ∈ e.frontier := by
    simp [hlevel]
  have hlength : (log ++ [level]).length = log.length + 1 := by simp
  refine ⟨level, ?_⟩
  constructor
  case lookups => simp [hlookups, progress.lookups]
  case enumerates =>
    intro n l hl
    rw [List.getElem?_append] at hl
    split at hl
    · exact progress.enumerates n l hl
    · obtain ⟨hn, rfl⟩ : n - log.length = 0 ∧ level = l := by
        simpa [List.getElem?_singleton] using hl
      obtain rfl : n = log.length := by omega
      refine ⟨fun id => (hlevel id).trans (progress.mem_frontier id), hnodup, fun hpool => ?_⟩
      rw [hkeeps hpool]
      exact Text.sortedTexts_pairwise _
  case log_nodup =>
    rw [List.flatten_append, List.nodup_append']
    refine ⟨progress.log_nodup, by simpa using hnodup, ?_⟩
    intro id hlog hid
    exact progress.notMem_log_of_mem_frontier ((hlevel id).1 (by simpa using hid)) hlog
  case mem_log =>
    intro id
    rw [hreached, progress.mem_log, progress.mem_frontier, hlength, PathTo.lt_succ_iff]
  case mem_frontier =>
    intro id
    rw [progress.mem_next_frontier gathered, hlength]
  case mem_seen =>
    intro id
    rw [mem_advance_seen, progress.mem_seen, hreached, or_assoc]
  case mem_keys =>
    intro id
    rw [mem_keys_advance, progress.mem_keys, hkeys, hreached]
  case callers =>
    intro id hid
    rcases (hreached id).1 hid with hlog | hnew
    · obtain ⟨ids, hlookup, hcallers⟩ := progress.callers id hlog
      have hold : id ∉ e.frontier := fun hnew => progress.notMem_log_of_mem_frontier hnew hlog
      refine ⟨ids, hlookup, fun x => ?_⟩
      rw [mem_callersOf_advance progress.wellFormed, hpairs id ids x hlookup, hcallers]
      simp [hold]
    · obtain ⟨entry, hentry, rfl⟩ := List.mem_map.1 ((hkeys id).2 hnew)
      have hlookup := (gather_ok gathered).2 entry hentry
      have hkey : entry.1 ∉ e.found.keys := by
        rw [progress.mem_keys]
        exact progress.notMem_log_of_mem_frontier hnew
      refine ⟨entry.2, hlookup, fun x => ?_⟩
      rw [mem_callersOf_advance progress.wellFormed, hpairs _ _ x hlookup,
        CallersMap.callersOf_eq_nil hkey]
      simp [hnew]
  case wellFormed => exact (CallersMap.WellFormed.nil.merge _).merge _

/-- Completed levels keep track of what is reachable. -/
theorem Levels.progress {made : List String} {log : List (List String)} {e last : Expansion}
    {w end' : Walk} (levels : Levels lookup pool e w last end')
    (progress : Progress lookup pool start seen made log e w) :
    ∃ log', Progress lookup pool start seen made log' last end' := by
  induction levels generalizing log with
  | refl e w => exact ⟨log, progress⟩
  | level pending gathered rest ih =>
      obtain ⟨level, progress⟩ := progress.advance gathered
      exact ih progress

/-- The methods of the frontier can be looked up if everything reachable can. -/
theorem Progress.answered {made : List String} {log : List (List String)} {e : Expansion} {w : Walk}
    (progress : Progress lookup pool start seen made log e w)
    (answers : ∀ id, Reachable lookup start seen id → ∃ ids, lookup id = .ok ids) :
    ∀ id ∈ e.frontier, ∃ ids, lookup id = .ok ids := by
  intro id hid
  exact answers id ⟨log.length, ((progress.mem_frontier id).1 hid).1⟩

/-- An empty frontier means that nothing is further away. -/
theorem Progress.not_atDistance {made : List String} {log : List (List String)} {e : Expansion}
    {w : Walk} (progress : Progress lookup pool start seen made log e w) (hend : e.frontier = [])
    {n : Nat} (hle : log.length ≤ n) (id : String) : ¬ AtDistance lookup start seen n id := by
  induction n, hle using Nat.le_induction generalizing id with
  | base =>
      intro hat
      have hmem := (progress.mem_frontier id).2 hat
      rw [hend] at hmem
      exact List.not_mem_nil hmem
  | succ n hle ih =>
      intro hat
      obtain ⟨⟨via, ids, hvia, -⟩, -⟩ := atDistance_succ_iff.1 hat
      exact ih via hvia

theorem Progress.enumerates_getD {made : List String} {log : List (List String)} {e : Expansion}
    {w : Walk} (progress : Progress lookup pool start seen made log e w) (hend : e.frontier = [])
    (n : Nat) : Enumerates lookup start seen pool n (log.getD n []) := by
  rw [List.getD_eq_getElem?_getD]
  cases hlevel : log[n]? with
  | some level => exact progress.enumerates n level hlevel
  | none =>
      have hle := List.getElem?_eq_none_iff.1 hlevel
      refine ⟨?_, List.nodup_nil, fun _ => List.Pairwise.nil⟩
      intro id
      simp [progress.not_atDistance hend hle id]

/-- Once the frontier is empty, everything reachable has been looked up. -/
theorem Progress.mem_log_iff_reachable {made : List String} {log : List (List String)}
    {e : Expansion} {w : Walk} (progress : Progress lookup pool start seen made log e w)
    (hend : e.frontier = []) (id : String) :
    id ∈ log.flatten ↔ Reachable lookup start seen id := by
  rw [progress.mem_log]
  constructor
  · rintro ⟨j, -, path⟩
    exact ⟨j, path⟩
  · rintro ⟨n, path⟩
    obtain ⟨k, -, hat⟩ := path.shortest
    exact ⟨k, Nat.lt_of_not_le fun hle => progress.not_atDistance hend hle id hat, hat.1⟩

/-! ## The whole expansion -/

/-- An expansion that is not interrupted has found everything reachable. -/
theorem expand_progress {w : Walk} (ends : Ends lookup pool (.start start seen) w)
    {found : CallersMap} (h : (expand lookup pool start seen w ends).result = .ok found) :
    ∃ log e, e.found = found ∧ e.frontier = [] ∧
      e.seen = (expand lookup pool start seen w ends).seen ∧
      Progress lookup pool start seen w.lookups log e (expand lookup pool start seen w ends).walk := by
  unfold expand at h ⊢
  obtain ⟨last, w', hrun, ⟨hempty, hok⟩ | ⟨i, w'', -, herror⟩⟩ := levels_run ends
  · obtain ⟨log, progress⟩ := hrun.progress (progress_start w)
    rw [hok] at h ⊢
    exact ⟨log, last, Except.ok.inj h, hempty, rfl, progress⟩
  · rw [herror] at h
    cases h

/-- The map of an expansion that is not interrupted: what is reachable, with what is looked up. -/
theorem expand_found {w : Walk} (ends : Ends lookup pool (.start start seen) w)
    {found : CallersMap} (h : (expand lookup pool start seen w ends).result = .ok found) :
    found.WellFormed ∧ (∀ id, id ∈ found.keys ↔ Reachable lookup start seen id) ∧
      ∀ id ∈ found.keys, ∃ ids, lookup id = .ok ids ∧
        ∀ x, x ∈ found.callersOf id ↔ x ∈ ids := by
  obtain ⟨log, e, rfl, hempty, -, progress⟩ := expand_progress ends h
  refine ⟨progress.wellFormed, ?_, ?_⟩
  · intro id
    rw [progress.mem_keys, progress.mem_log_iff_reachable hempty]
  · intro id hid
    exact progress.callers id ((progress.mem_keys id).1 hid)

/-- As a relation, the map of an expansion holds the neighbours of what is reachable. -/
theorem expand_neighbours {w : Walk} (ends : Ends lookup pool (.start start seen) w)
    {found : CallersMap} (h : (expand lookup pool start seen w ends).result = .ok found)
    (id x : String) :
    x ∈ found.callersOf id ↔ Reachable lookup start seen id ∧ Neighbour lookup id x := by
  obtain ⟨-, hkeys, hcallers⟩ := expand_found ends h
  constructor
  · intro hx
    have hid := CallersMap.mem_keys_of_mem_callersOf hx
    obtain ⟨ids, hlookup, hids⟩ := hcallers id hid
    exact ⟨(hkeys id).1 hid, ids, hlookup, (hids x).1 hx⟩
  · rintro ⟨hid, ids, hlookup, hx⟩
    obtain ⟨ids', hlookup', hids⟩ := hcallers id ((hkeys id).2 hid)
    obtain rfl : ids = ids' := Except.ok.inj (hlookup.symm.trans hlookup')
    exact (hids x).2 hx

/-- Over finitely many reachable methods an expansion ends. -/
theorem ends_of_finite_reachable (pool : Pool) (w : Walk)
    (finite : {id | Reachable lookup start seen id}.Finite) :
    Ends lookup pool (.start start seen) w := by
  have bounded : (Expansion.start start seen).BoundedBy lookup finite.toFinset.toList := by
    intro id ids hid hlookup x hx
    have hid : Reachable lookup start seen id := by
      rcases hid with hid | hid
      · rw [Expansion.start, List.mem_eraseDups] at hid
        exact ⟨0, .start hid⟩
      · simpa using hid
    by_cases hseen : x ∈ seen
    · exact .inl hseen
    · obtain ⟨n, path⟩ := hid
      have hx : Reachable lookup start seen x := ⟨n + 1, .step path hlookup hx hseen⟩
      exact .inr (.inr (by simpa using hx))
  exact bounded.ends pool w

/-- Completed levels do not cancel the token. -/
theorem Levels.calm {made : List String} {log : List (List String)} {e last : Expansion}
    {w end' : Walk} (levels : Levels lookup pool e w last end')
    (answers : ∀ id, Reachable lookup start seen id → ∃ ids, lookup id = .ok ids)
    (progress : Progress lookup pool start seen made log e w) (calm : w.Calm) : end'.Calm := by
  induction levels generalizing log with
  | refl e w => exact calm
  | level pending gathered rest ih =>
      obtain ⟨_, _, hgather, hcalm⟩ := gather_calm pool calm (progress.answered answers)
      obtain ⟨level, progress⟩ := progress.advance gathered
      rw [gathered] at hgather
      exact ih progress ((Prod.mk.inj hgather).2 ▸ hcalm)

/-- A calm expansion is not interrupted if everything reachable can be looked up. -/
theorem expand_calm {w : Walk} (calm : w.Calm) (ends : Ends lookup pool (.start start seen) w)
    (answers : ∀ id, Reachable lookup start seen id → ∃ ids, lookup id = .ok ids) :
    ∃ found, (expand lookup pool start seen w ends).result = .ok found ∧
      (expand lookup pool start seen w ends).walk.Calm := by
  unfold expand
  obtain ⟨last, w', hrun, ⟨hempty, hok⟩ | ⟨i, w'', hgather, -⟩⟩ := levels_run ends
  · rw [hok]
    exact ⟨last.found, rfl, hrun.calm answers (progress_start w) calm⟩
  · obtain ⟨log, progress⟩ := hrun.progress (progress_start w)
    obtain ⟨direct, w₂, hok, -⟩ := gather_calm pool (hrun.calm answers (progress_start w) calm)
      (progress.answered answers)
    rw [hgather] at hok
    cases (Prod.mk.inj hok).1

/-- A calm expansion over finitely many reachable methods ends.  It finds exactly these, each with
what is looked up for it; it makes one lookup for each of them, level by level in the order of their
distances; and it adds them, and nothing else, to the methods seen. -/
theorem expand_finds_reachable (pool : Pool) (start seen : List String) {w : Walk} (calm : w.Calm)
    (finite : {id | Reachable lookup start seen id}.Finite)
    (answers : ∀ id, Reachable lookup start seen id → ∃ ids, lookup id = .ok ids) :
    ∃ (ends : Ends lookup pool (.start start seen) w) (found : CallersMap) (seen' : List String)
        (log : List (List String)),
      expand lookup pool start seen w ends =
        ⟨.ok found, seen', ⟨.never, w.lookups ++ log.flatten⟩⟩ ∧
      found.WellFormed ∧
      (∀ id, id ∈ found.keys ↔ Reachable lookup start seen id) ∧
      (∀ id ∈ found.keys, ∃ ids, lookup id = .ok ids ∧ ∀ x, x ∈ found.callersOf id ↔ x ∈ ids) ∧
      (log.flatten.Nodup ∧ (∀ id, id ∈ log.flatten ↔ id ∈ found.keys) ∧
        ∀ n, Enumerates lookup start seen pool n (log.getD n [])) ∧
      (∀ id, id ∈ seen' ↔ id ∈ seen ∨ id ∈ found.keys) := by
  have ends := ends_of_finite_reachable pool w finite
  obtain ⟨found, hresult, hcalm⟩ := expand_calm calm ends answers
  obtain ⟨hwellFormed, hreachable, hcallers⟩ := expand_found ends hresult
  obtain ⟨log, e, rfl, hempty, hseen, progress⟩ := expand_progress ends hresult
  have hkeys : ∀ id, id ∈ log.flatten ↔ id ∈ e.found.keys := fun id => (progress.mem_keys id).symm
  refine ⟨ends, e.found, e.seen, log, ?_, hwellFormed, hreachable, hcallers,
    ⟨progress.log_nodup, hkeys, progress.enumerates_getD hempty⟩, ?_⟩
  · have hlookups := progress.lookups
    generalize expand lookup pool start seen w ends = expanded at hresult hcalm hseen hlookups ⊢
    obtain ⟨result, seen', token, lookups⟩ := expanded
    obtain rfl : result = .ok e.found := hresult
    obtain rfl : e.seen = seen' := hseen
    obtain rfl : token = .never := hcalm
    obtain rfl : lookups = w.lookups ++ log.flatten := hlookups
    rfl
  · intro id
    rw [progress.mem_seen, hkeys]

/-- Two methods that call each other and themselves, and a third one that has been seen, like the
method to start from: the third one is not expanded. -/
theorem expand_finds_reachable_cycle :
    let lookup : Lookup := fun id => .ok (if id = "a" then ["a", "b"] else ["a", "b", "c"])
    ∃ ends found seen' log, expand lookup ⟨1, .given⟩ ["a"] ["a", "c"] (.start .never) ends =
        ⟨.ok found, seen', ⟨.never, log⟩⟩ ∧
      (∀ id, id ∈ found.keys ↔ id = "a" ∨ id = "b") ∧
      (∀ x, x ∈ found.callersOf "b" ↔ x ∈ ["a", "b", "c"]) ∧ log.Nodup := by
  intro lookup
  have hreachable : ∀ id, Reachable lookup ["a"] ["a", "c"] id ↔ id = "a" ∨ id = "b" := by
    intro id
    constructor
    · rintro ⟨n, path⟩
      cases path with
      | start mem => exact .inl (by simpa using mem)
      | step path found mem fresh =>
          obtain rfl := Except.ok.inj found
          split at mem <;> simp at mem fresh <;> tauto
    · have hstart : PathTo lookup ["a"] ["a", "c"] 0 "a" := .start (by simp)
      rintro (rfl | rfl)
      · exact ⟨0, hstart⟩
      · exact ⟨1, .step hstart rfl (by simp) (by simp)⟩
  have hfinite : {id | Reachable lookup ["a"] ["a", "c"] id}.Finite := by
    refine Set.Finite.subset (Set.toFinite {"a", "b"}) ?_
    intro id hid
    exact (hreachable id).1 hid
  obtain ⟨ends, found, seen', log, hexpand, -, hkeys, hcallers, ⟨hnodup, -⟩, -⟩ :=
    expand_finds_reachable ⟨1, .given⟩ ["a"] ["a", "c"] (w := .start .never) rfl hfinite
      fun id _ => ⟨_, rfl⟩
  refine ⟨ends, found, seen', log.flatten, hexpand, ?_, ?_, hnodup⟩
  · intro id
    rw [hkeys, hreachable]
  · obtain ⟨ids, hids, hcallers⟩ := hcallers "b" ((hkeys "b").2 ((hreachable "b").2 (.inr rfl)))
    obtain rfl := Except.ok.inj hids
    exact hcallers

end

end CallAtlas.Traversal
