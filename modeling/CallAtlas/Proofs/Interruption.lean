import CallAtlas.Proofs.AllOrNothing

/-!
# Interrupted expansions

One worker makes its lookups in a fixed order and looks at its token before each of them.  Where a
cancelled token or a lookup without an answer breaks an expansion off, the lookups made so far are
the beginning of those that are made if nothing interrupts, and only the levels that were gathered
completely count as seen.
-/

namespace CallAtlas

namespace Token

theorem spend_after_eq_some {n k : Nat} {t : Token} (h : (after n).spend k = some t) :
    ∃ j, n = k + j ∧ t = after j := by
  rcases Nat.lt_or_ge n k with hlt | hge
  · rw [spend_after_eq_none hlt] at h
    cases h
  · obtain ⟨j, rfl⟩ := Nat.exists_eq_add_of_le hge
    rw [spend_after_add] at h
    exact ⟨j, rfl, (Option.some.inj h).symm⟩

/-- A token that is found cancelled after some looks lasts exactly so many. -/
theorem eq_after_of_spend {t t' : Token} {n : Nat} (spent : t.spend n = some t')
    (ended : t'.check = none) : t = after n := by
  obtain ⟨_ | k⟩ := t
  · have hnever : t' = never := Option.some.inj (spent.symm.trans (spend_never n))
    subst hnever
    cases ended
  · obtain ⟨j, rfl, rfl⟩ := spend_after_eq_some spent
    cases j with
    | zero => rfl
    | succ j => cases ended

end Token

namespace Traversal

section

variable {lookup : Lookup} {pool : Pool} {w w' : Walk} {i : Interrupt}

/-- Why lookups break off after those that were made, with some left: the token is found cancelled
at the next one, or the last one has no answer. -/
inductive Stops (lookup : Lookup) (t : Token) : Interrupt → List String → List String → Prop where
  | cancelled {t' : Token} {made left : List String} {id : String}
      (spent : t.spend made.length = some t') (ended : t'.check = none) :
      Stops lookup t .cancelled made (id :: left)
  | failed (made : List String) {left : List String} {id : String} {e : QueryError}
      (error : lookup id = .error e) : Stops lookup t (.failed e) (made ++ [id]) left

theorem Stops.ne_nil {t : Token} {made left : List String} (stops : Stops lookup t i made left) :
    made ++ left ≠ [] := by
  cases stops <;> simp

theorem Stops.cons {t t' : Token} {made left : List String} (stops : Stops lookup t' i made left)
    (id : String) (passed : t.check = some t') : Stops lookup t i (id :: made) left := by
  cases stops with
  | cancelled spent ended =>
      refine .cancelled ?_ ended
      rw [List.length_cons, Token.spend, passed]
      exact spent
  | failed made error => exact .failed (id :: made) error

theorem query_cases (lookup : Lookup) (id : String) (w : Walk) :
    (w.token.check = none ∧ w.query lookup id = (.error .cancelled, w)) ∨
      ∃ t, w.token.check = some t ∧
        w.query lookup id = (answerOf lookup id, ⟨t, w.lookups ++ [id]⟩) := by
  unfold Walk.query answerOf
  cases w.token.check with
  | none => exact .inl ⟨rfl, rfl⟩
  | some t =>
      refine .inr ⟨t, rfl, ?_⟩
      dsimp only
      cases lookup id <;> rfl

/-- Every lookup of a list that is gathered takes one look at the token. -/
theorem gatherEach_spends {ids : List String} {direct : CallersMap}
    (h : gatherEach lookup ids w = (.ok direct, w')) :
    w.token.spend ids.length = some w'.token := by
  induction ids generalizing w direct with
  | nil =>
      obtain rfl := (Prod.mk.inj h).2
      rfl
  | cons id ids ih =>
      rw [gatherEach] at h
      rcases query_cases lookup id w with ⟨-, hquery⟩ | ⟨t, passed, hquery⟩
      · rw [hquery] at h
        cases h
      · rw [hquery] at h
        split at h
        · cases h
        · rename_i heq
          obtain rfl := (Prod.mk.inj heq).2
          split at h
          · cases h
          · rename_i hrest
            obtain rfl := (Prod.mk.inj h).2
            rw [List.length_cons, Token.spend, passed]
            exact ih hrest

/-- Lookups in order that break off have made the first ones. -/
theorem gatherEach_stops {ids : List String} (h : gatherEach lookup ids w = (.error i, w')) :
    ∃ made left, ids = made ++ left ∧ w'.lookups = w.lookups ++ made ∧
      Stops lookup w.token i made left := by
  induction ids generalizing w with
  | nil => cases h
  | cons id ids ih =>
      rw [gatherEach] at h
      rcases query_cases lookup id w with ⟨ended, hquery⟩ | ⟨t, passed, hquery⟩
      · rw [hquery] at h
        obtain ⟨heq, rfl⟩ := Prod.mk.inj h
        obtain rfl := Except.error.inj heq
        exact ⟨[], id :: ids, rfl, (List.append_nil _).symm, .cancelled rfl ended⟩
      · rw [hquery, answerOf] at h
        cases hlookup : lookup id with
        | error e =>
            rw [hlookup] at h
            obtain ⟨heq, rfl⟩ := Prod.mk.inj h
            obtain rfl := Except.error.inj heq
            exact ⟨[id], ids, rfl, rfl, .failed [] hlookup⟩
        | ok found =>
            rw [hlookup] at h
            dsimp only at h
            split at h
            · rename_i hrest
              obtain ⟨heq, rfl⟩ := Prod.mk.inj h
              obtain rfl := Except.error.inj heq
              obtain ⟨made, left, rfl, hlookups, stops⟩ := ih hrest
              refine ⟨id :: made, left, rfl, ?_, stops.cons id passed⟩
              rw [hlookups, List.append_assoc, List.singleton_append]
            · cases h

end

section

variable {lookup : Lookup} {pool : Pool} {e last : Expansion} {w w' : Walk}

/-- Levels that one worker completes take one look at the token for each lookup. -/
theorem Levels.spends (alone : pool.workers ≤ 1) (levels : Levels lookup pool e w last w') :
    ∃ made, w'.lookups = w.lookups ++ made ∧ w.token.spend made.length = some w'.token := by
  induction levels with
  | refl e w => exact ⟨[], (List.append_nil _).symm, rfl⟩
  | @level e last w next end' direct pending gathered rest ih =>
      rw [gather_of_alone alone] at gathered
      obtain ⟨made, hlookups, hspent⟩ := ih
      refine ⟨Text.sortedTexts e.frontier ++ made, ?_, ?_⟩
      · rw [hlookups, gatherEach_lookups gathered, List.append_assoc]
      · rw [List.length_append, Token.spend_add, gatherEach_spends gathered]
        exact hspent

/-- Completed levels may be followed by one more. -/
theorem Levels.snoc {direct : CallersMap} {next : Walk} (levels : Levels lookup pool e w last w')
    (pending : last.frontier ≠ [])
    (gathered : gather lookup pool last.frontier w' = (.ok direct, next)) :
    Levels lookup pool e w (last.advance direct) next := by
  induction levels with
  | refl e w => exact .level pending gathered (.refl _ _)
  | level hpending hgathered rest ih => exact .level hpending hgathered (ih pending gathered)

/-- After completed levels an expansion goes on as from their last state. -/
theorem Levels.resume (levels : Levels lookup pool e w last w') (ends : Ends lookup pool e w) :
    ∃ ends', Traversal.levels lookup pool e w ends =
      Traversal.levels lookup pool last w' ends' := by
  induction levels with
  | refl e w => exact ⟨ends, rfl⟩
  | level pending gathered rest ih =>
      rw [levels_of_ok ends pending gathered]
      exact ih _

/-- The lookups made before an expansion remain the first ones. -/
theorem levels_isPrefix (alone : pool.workers ≤ 1) (ends : Ends lookup pool e w) :
    w.lookups <+: (levels lookup pool e w ends).2.2.lookups := by
  fun_induction levels lookup pool e w ends with
  | case1 e w ends hempty => exact List.prefix_refl _
  | case2 e w ends pending i next gathered =>
      rw [gather_of_alone alone] at gathered
      obtain ⟨made, left, -, hlookups, -⟩ := gatherEach_stops gathered
      exact ⟨made, hlookups.symm⟩
  | case3 e w ends pending direct next gathered ih =>
      rw [gather_of_alone alone] at gathered
      apply List.IsPrefix.trans ⟨_, (gatherEach_lookups gathered).symm⟩
      exact ih

/-- A token that is cancelled at some time brings every expansion to its end. -/
theorem ends_of_after (alone : pool.workers ≤ 1) {n : Nat} (hafter : w.token = .after n) :
    Ends lookup pool e w := by
  induction n using Nat.strongRecOn generalizing e w with
  | ind n ih =>
      constructor
      rintro ⟨_, next⟩ ⟨pending, direct, gathered, rfl⟩
      dsimp only at gathered
      rw [gather_of_alone alone] at gathered
      have hspent := gatherEach_spends gathered
      rw [hafter] at hspent
      obtain ⟨j, hn, hnext⟩ := Token.spend_after_eq_some hspent
      -- a level that is pending makes at least one lookup
      have hlevel : Text.sortedTexts e.frontier ≠ [] := by
        obtain ⟨id, hid⟩ := List.exists_mem_of_ne_nil _ pending
        exact List.ne_nil_of_mem (Text.mem_sortedTexts.2 hid)
      have hpos := List.length_pos_iff.2 hlevel
      exact ih j (by omega) hnext

end

def answering (answer : String → List String) : Lookup := fun id => .ok (answer id)

section

variable {lookup : Lookup} {pool : Pool} {answer : String → List String} {e last : Expansion}
  {w w' : Walk}

theorem gatherEach_answering (answer : String → List String) (ids made : List String) :
    gatherEach (answering answer) ids ⟨.never, made⟩ =
      (.ok (ids.map fun id => (id, answer id)), ⟨.never, made ++ ids⟩) := by
  induction ids generalizing made with
  | nil => simp [gatherEach]
  | cons id ids ih =>
      rw [gatherEach, query_eq (w := ⟨.never, made⟩) rfl]
      simp only [answerOf, answering]
      rw [ih]
      simp

/-- What is gathered from a lookup is gathered from every lookup that has the same answers and
others in place of its errors. -/
theorem gather_answering (alone : pool.workers ≤ 1)
    (agrees : ∀ id ids, lookup id = .ok ids → answer id = ids) {ids : List String}
    {direct : CallersMap} (gathered : gather lookup pool ids w = (.ok direct, w')) :
    gather (answering answer) pool ids ⟨.never, w.lookups⟩ =
      (.ok direct, ⟨.never, w'.lookups⟩) := by
  obtain ⟨hkeys, hentries⟩ := gather_ok gathered
  rw [gather_of_alone alone] at gathered ⊢
  have hdirect : (Text.sortedTexts ids).map (fun id => (id, answer id)) = direct := by
    rw [← hkeys, List.map_map]
    conv_rhs => rw [← List.map_id direct]
    apply List.map_congr_left
    intro entry hentry
    exact Prod.ext rfl (agrees _ _ (hentries entry hentry))
  rw [gatherEach_answering, hdirect, gatherEach_lookups gathered]

theorem Levels.answering (alone : pool.workers ≤ 1)
    (agrees : ∀ id ids, lookup id = .ok ids → answer id = ids)
    (levels : Levels lookup pool e w last w') :
    Levels (Traversal.answering answer) pool e ⟨.never, w.lookups⟩ last ⟨.never, w'.lookups⟩ := by
  induction levels with
  | refl e w => exact .refl _ _
  | level pending gathered rest ih =>
      exact .level pending (gather_answering alone agrees gathered) ih

end

/-! ## Where an expansion is interrupted -/

/-- An expansion that is interrupted after the levels of the log, in a level of which the lookups
`made` were made and those for `left` were not.  The levels are those of the expansion that always
has the given answers and is never cancelled, and the lookups are the first ones of that expansion,
which may be without end.  Only the methods of the log are added to those seen. -/
structure InterruptedIn (answer : String → List String) (pool : Pool) (start seen : List String)
    (w : Walk) (expanded : Expanded) (log : List (List String)) (made left : List String) :
    Prop where
  lookups : expanded.walk.lookups = w.lookups ++ (log.flatten ++ made)
  enumerates : ∀ n level, (log ++ [made ++ left])[n]? = some level →
    Enumerates (answering answer) start seen pool n level
  beginning : ∃ last w', Levels (answering answer) pool (.start start seen) ⟨.never, w.lookups⟩
    last w' ∧ expanded.walk.lookups <+: w'.lookups
  isPrefix : ∀ ends, expanded.walk.lookups <+:
    (expand (answering answer) pool start seen ⟨.never, w.lookups⟩ ends).walk.lookups
  mem_seen : ∀ id, id ∈ expanded.seen ↔ id ∈ seen ∨ id ∈ log.flatten
  unmarked : ∀ id ∈ made ++ left, id ∈ expanded.seen → id ∈ seen ∧ log = []

section

variable {lookup : Lookup} {pool : Pool} {answer : String → List String}
  {start seen : List String} {w w' : Walk}

/-- Levels of the expansion that nothing interrupts hold the lookups with which it begins. -/
theorem isPrefix_expand (alone : pool.workers ≤ 1) {last : Expansion}
    (levels : Levels lookup pool (.start start seen) w last w')
    (ends : Ends lookup pool (.start start seen) w) :
    w'.lookups <+: (expand lookup pool start seen w ends).walk.lookups := by
  obtain ⟨ends', hresume⟩ := levels.resume ends
  have hwalk : (expand lookup pool start seen w ends).walk =
      (Traversal.levels lookup pool last w' ends').2.2 := by
    rw [expand, hresume]
    rcases Traversal.levels lookup pool last w' ends' with ⟨i | ⟨⟩, e, v⟩ <;> rfl
  rw [hwalk]
  exact levels_isPrefix alone ends'

/-- The level after the log of an expansion that always has an answer. -/
theorem Progress.next (alone : pool.workers ≤ 1) {made : List String} {log : List (List String)}
    {e : Expansion} {made' : List String}
    (progress : Progress (answering answer) pool start seen made log e ⟨.never, made'⟩) :
    ∃ direct, gather (answering answer) pool e.frontier ⟨.never, made'⟩ =
        (.ok direct, ⟨.never, made' ++ Text.sortedTexts e.frontier⟩) ∧
      Progress (answering answer) pool start seen made (log ++ [Text.sortedTexts e.frontier])
        (e.advance direct) ⟨.never, made' ++ Text.sortedTexts e.frontier⟩ := by
  have gathered := gatherEach_answering answer (Text.sortedTexts e.frontier) made'
  rw [← gather_of_alone alone] at gathered
  obtain ⟨level, hnext⟩ := progress.advance gathered
  have hlevel : level = Text.sortedTexts e.frontier := by
    have hlookups := hnext.lookups
    have hmade : made' = made ++ log.flatten := progress.lookups
    simpa [hmade] using hlookups.symm
  exact ⟨_, gathered, hlevel ▸ hnext⟩

/-- Methods that an expansion goes on to after some levels have not been seen at its beginning. -/
theorem Enumerates.fresh {n : Nat} {level : List String}
    (enumerates : Enumerates lookup start seen pool (n + 1) level) {id : String}
    (hid : id ∈ level) : id ∉ seen :=
  (atDistance_succ_iff.1 ((enumerates.mem_iff id).1 hid)).2.1

/-- Levels that were completed, and a level of which the first lookups were made, are those of the
expansion that nothing interrupts. -/
theorem Levels.interruptedIn (alone : pool.workers ≤ 1)
    (agrees : ∀ id ids, lookup id = .ok ids → answer id = ids) {last : Expansion}
    (run : Levels lookup pool (.start start seen) w last w') {made left : List String}
    (level : Text.sortedTexts last.frontier = made ++ left) (pending : made ++ left ≠ [])
    {w'' : Walk} (hmade : w''.lookups = w'.lookups ++ made) (i : Interrupt) :
    ∃ log, w'.lookups = w.lookups ++ log.flatten ∧
      InterruptedIn answer pool start seen w ⟨.error i, last.seen, w''⟩ log made left := by
  have run' := run.answering alone agrees
  obtain ⟨log, progress⟩ := run'.progress (progress_start ⟨.never, w.lookups⟩)
  obtain ⟨direct, gathered, hnext⟩ := progress.next alone
  have hpending : last.frontier ≠ [] := by
    intro hempty
    rw [hempty] at level
    exact pending (level.symm.trans (by simp [Text.sortedTexts]))
  have hbegin := run'.snoc hpending gathered
  rw [level] at hbegin hnext
  have hlog : w'.lookups = w.lookups ++ log.flatten := progress.lookups
  have hprefix : w''.lookups <+: w'.lookups ++ (made ++ left) := by
    rw [hmade, ← List.append_assoc]
    exact List.prefix_append _ _
  refine ⟨log, hlog, ?_, hnext.enumerates, ⟨_, _, hbegin, hprefix⟩, ?_, progress.mem_seen, ?_⟩
  · rw [hmade, hlog, List.append_assoc]
  · intro ends
    exact hprefix.trans (isPrefix_expand alone hbegin ends)
  · intro id hid hseen
    have hfrontier : id ∈ last.frontier := Text.mem_sortedTexts.1 (level ▸ hid)
    have hold := ((progress.mem_seen id).1 hseen).resolve_right
      (progress.notMem_log_of_mem_frontier hfrontier)
    -- only the start set may hold methods that have been seen
    cases log with
    | nil => exact ⟨hold, rfl⟩
    | cons first log =>
        have henumerates := hnext.enumerates (log.length + 1) (made ++ left) (by simp)
        exact absurd hold (henumerates.fresh hid)

/-- One worker whose expansion is interrupted has made the first lookups of the expansion that
nothing interrupts, and it leaves the methods of the interrupted level unmarked.  If its token is
cancelled, it has made as many lookups as the token lasts looks, and such an expansion always ends;
if a lookup has no answer, that lookup was the last one. -/
theorem expand_interrupted (lookup : Lookup) (pool : Pool) (alone : pool.workers ≤ 1)
    (answer : String → List String) (agrees : ∀ id ids, lookup id = .ok ids → answer id = ids)
    (start seen : List String) (w : Walk) :
    (∀ n, w.token = .after n → Ends lookup pool (.start start seen) w) ∧
    ∀ (ends : Ends lookup pool (.start start seen) w) (i : Interrupt),
      (expand lookup pool start seen w ends).result = .error i →
      ∃ log made left, InterruptedIn answer pool start seen w
          (expand lookup pool start seen w ends) log made left ∧
        (i = .cancelled → left ≠ [] ∧ w.token = .after (log.flatten ++ made).length) ∧
        ∀ e, i = .failed e → ∃ earlier id, made = earlier ++ [id] ∧ lookup id = .error e := by
  refine ⟨fun n hafter => ends_of_after alone hafter, fun ends i hresult => ?_⟩
  obtain ⟨last, w', run, ⟨-, hok⟩ | ⟨i', w'', gathered, herror⟩⟩ := levels_run ends
  · rw [expand, hok] at hresult
    cases hresult
  have hexpand : expand lookup pool start seen w ends = ⟨.error i', last.seen, w''⟩ := by
    rw [expand, herror]
    rfl
  rw [hexpand] at hresult ⊢
  obtain rfl : i' = i := Except.error.inj hresult
  rw [gather_of_alone alone] at gathered
  obtain ⟨made, left, level, hmade, stops⟩ := gatherEach_stops gathered
  obtain ⟨log, hlog, interrupted⟩ :=
    run.interruptedIn alone agrees level stops.ne_nil hmade i'
  refine ⟨log, made, left, interrupted, ?_, ?_⟩
  · rintro rfl
    obtain ⟨made', hlookups, hspent⟩ := run.spends alone
    obtain rfl : made' = log.flatten := List.append_cancel_left (hlookups.symm.trans hlog)
    cases stops with
    | cancelled spent ended =>
        refine ⟨List.cons_ne_nil _ _, Token.eq_after_of_spend ?_ ended⟩
        rw [List.length_append, Token.spend_add, hspent]
        exact spent
  · rintro e rfl
    cases stops with
    | failed made error => exact ⟨made, _, rfl, error⟩

/-- Calls without end: the first method calls two others, and every other one calls the first and
one more. -/
def endless : String → List String := fun id => if id = "a" then ["b", "c"] else ["a", id ++ "d"]

/-- Cancelled after two lookups, the expansion of calls without end stops in its second level, of
which it has looked up one method and marked none. -/
theorem expand_interrupted_endless :
    ∃ ends, expand (answering endless) ⟨1, .given⟩ ["a"] ["x"] (.start (.after 2)) ends =
        ⟨.error .cancelled, ["x", "a"], ⟨.after 0, ["a", "b"]⟩⟩ ∧
      ∃ log made left, InterruptedIn endless ⟨1, .given⟩ ["a"] ["x"] (.start (.after 2))
        ⟨.error .cancelled, ["x", "a"], ⟨.after 0, ["a", "b"]⟩⟩ log made left ∧ left ≠ [] := by
  obtain ⟨hends, hstop⟩ := expand_interrupted (answering endless) ⟨1, .given⟩ (le_refl 1) endless
    (fun id ids h => Except.ok.inj h) ["a"] ["x"] (.start (.after 2))
  have ends := hends 2 rfl
  have hfirst : gather (answering endless) ⟨1, .given⟩ (Expansion.start ["a"] ["x"]).frontier
      (.start (.after 2)) = (.ok [("a", ["b", "c"])], ⟨.after 1, ["a"]⟩) := by
    have hsorted : Text.sortedTexts ["a"] = ["a"] := List.mergeSort_of_pairwise (by decide)
    have hfrontier : (Expansion.start ["a"] ["x"]).frontier = ["a"] := rfl
    rw [gather_of_alone (le_refl 1), hfrontier, hsorted]
    rfl
  have hsecond : gather (answering endless) ⟨1, .given⟩
      ((Expansion.start ["a"] ["x"]).advance [("a", ["b", "c"])]).frontier
      ⟨.after 1, ["a"]⟩ = (.error .cancelled, ⟨.after 0, ["a", "b"]⟩) := by
    have hsorted : Text.sortedTexts ["b", "c"] = ["b", "c"] :=
      List.mergeSort_of_pairwise (by decide)
    have hfrontier : ((Expansion.start ["a"] ["x"]).advance [("a", ["b", "c"])]).frontier =
        ["b", "c"] := rfl
    rw [gather_of_alone (le_refl 1), hfrontier, hsorted]
    rfl
  have hexpand : expand (answering endless) ⟨1, .given⟩ ["a"] ["x"] (.start (.after 2)) ends =
      ⟨.error .cancelled, ["x", "a"], ⟨.after 0, ["a", "b"]⟩⟩ := by
    rw [expand, (levels_of_ok ends (List.cons_ne_nil _ _) hfirst).trans
      (levels_of_error _ (List.cons_ne_nil _ _) hsecond)]
    rfl
  obtain ⟨log, made, left, interrupted, hcancelled, -⟩ := hstop ends .cancelled (by rw [hexpand])
  rw [hexpand] at interrupted
  exact ⟨ends, hexpand, log, made, left, interrupted, (hcancelled rfl).1⟩

end

end Traversal

end CallAtlas
