import CallAtlas.Proofs.Focus
import Mathlib.Logic.Relation

/-!
# Pools

However many workers make the lookups of a gathering, and in whatever order they make them, its
outcome is that of one worker: the map of all answers, or the error of the first method without an
answer.  So it is with everything that is gathered level by level.

A pool takes up lookups while the outcomes of earlier ones are collected, and the first error that
is collected cancels the lookups that no worker has taken up.  By then all outcomes before that
error have been collected, so nothing that counts is cancelled.
-/

namespace CallAtlas

open Project (SearchScope)

namespace Traversal

/-- The answers for methods in order, up to the first one without an answer. -/
def answersOf (lookup : Lookup) : List String → Except Interrupt CallersMap
  | [] => .ok []
  | id :: ids =>
    match lookup id with
    | .error e => .error (.failed e)
    | .ok found => (answersOf lookup ids).map ((id, found) :: ·)

/-- What it means that looking up a set of methods comes to an outcome: it has all the answers, in
the order of the methods, or it is the error of the first method without one. -/
structure Settles (lookup : Lookup) (ids : List String) (outcome : Except Interrupt CallersMap) :
    Prop where
  answered : (∀ id ∈ ids, ∃ found, lookup id = .ok found) →
    ∃ m : CallersMap, outcome = .ok m ∧ m.keys = Text.sortedTexts ids ∧
      ∀ entry ∈ m, lookup entry.1 = .ok entry.2
  failed : ∀ id e, id ∈ ids → lookup id = .error e →
    (∀ x ∈ ids, x < id → ∃ found, lookup x = .ok found) → outcome = .error (.failed e)

section Answers

variable {lookup : Lookup} {ids : List String}

theorem answersOf_eq_ok {m : CallersMap} (keys : m.keys = ids)
    (answers : ∀ entry ∈ m, lookup entry.1 = .ok entry.2) : answersOf lookup ids = .ok m := by
  subst keys
  induction m with
  | nil => rfl
  | cons entry m ih =>
      rw [CallersMap.keys, List.map_cons, answersOf, answers entry List.mem_cons_self]
      dsimp only
      rw [← CallersMap.keys, ih fun entry hentry => answers entry (List.mem_cons_of_mem _ hentry)]
      rfl

theorem exists_answers (answers : ∀ id ∈ ids, ∃ found, lookup id = .ok found) :
    ∃ m : CallersMap, m.keys = ids ∧ ∀ entry ∈ m, lookup entry.1 = .ok entry.2 := by
  induction ids with
  | nil => exact ⟨[], rfl, by simp⟩
  | cons id ids ih =>
      obtain ⟨found, hfound⟩ := answers id List.mem_cons_self
      obtain ⟨m, hkeys, hentries⟩ := ih fun id hid => answers id (List.mem_cons_of_mem _ hid)
      refine ⟨(id, found) :: m, congrArg (id :: ·) hkeys, ?_⟩
      intro entry hentry
      rcases List.mem_cons.1 hentry with rfl | hentry
      · exact hfound
      · exact hentries entry hentry

/-- The first method without an answer decides. -/
theorem answersOf_eq_error (sorted : ids.Pairwise (· < ·)) {id : String} {e : QueryError}
    (hid : id ∈ ids) (herror : lookup id = .error e)
    (first : ∀ x ∈ ids, x < id → ∃ found, lookup x = .ok found) :
    answersOf lookup ids = .error (.failed e) := by
  induction ids with
  | nil => cases hid
  | cons x ids ih =>
      obtain ⟨hlt, sorted⟩ := List.pairwise_cons.1 sorted
      rcases List.mem_cons.1 hid with rfl | hid
      · rw [answersOf, herror]
      · obtain ⟨found, hfound⟩ := first x List.mem_cons_self (hlt id hid)
        rw [answersOf, hfound]
        dsimp only
        rw [ih sorted hid fun y hy => first y (List.mem_cons_of_mem _ hy)]
        rfl

theorem answersOf_settles : Settles lookup ids (answersOf lookup (Text.sortedTexts ids)) where
  answered answers := by
    obtain ⟨m, hkeys, hentries⟩ :=
      exists_answers fun id hid => answers id (Text.mem_sortedTexts.1 hid)
    exact ⟨m, answersOf_eq_ok hkeys hentries, hkeys, hentries⟩
  failed _ _ hid herror first :=
    answersOf_eq_error (Text.sortedTexts_pairwise ids) (Text.mem_sortedTexts.2 hid) herror
      fun x hx => first x (Text.mem_sortedTexts.1 hx)

end Answers

/-! ## One worker and a pool -/

section Calm

variable {lookup : Lookup} {w : Walk}

/-- What a lookup comes to, as long as the token is not cancelled. -/
def answerOf (lookup : Lookup) (id : String) : Except Interrupt (List String) :=
  match lookup id with
  | .ok found => .ok found
  | .error e => .error (.failed e)

theorem query_eq (calm : w.Calm) (id : String) :
    w.query lookup id = (answerOf lookup id, ⟨.never, w.lookups ++ [id]⟩) := by
  obtain ⟨token, made⟩ := w
  obtain rfl : token = .never := calm
  simp only [Walk.query, Token.never, Token.check, answerOf]
  cases lookup id <;> rfl

theorem gatherEach_eq (calm : w.Calm) (ids : List String) :
    (gatherEach lookup ids w).1 = answersOf lookup ids ∧ (gatherEach lookup ids w).2.Calm := by
  induction ids generalizing w with
  | nil => exact ⟨rfl, calm⟩
  | cons id ids ih =>
      rw [gatherEach, query_eq calm, answersOf, answerOf]
      cases hlookup : lookup id with
      | error e => exact ⟨rfl, rfl⟩
      | ok found =>
          obtain ⟨hrest, hcalm⟩ := ih (w := ⟨.never, w.lookups ++ [id]⟩) rfl
          dsimp only
          rw [← hrest]
          generalize gatherEach lookup ids ⟨.never, w.lookups ++ [id]⟩ = gathered at hcalm ⊢
          obtain ⟨i | rest, w'⟩ := gathered
          · exact ⟨rfl, hcalm⟩
          · exact ⟨rfl, hcalm⟩

theorem evaluate_eq (lookup : Lookup) (calm : w.Calm) (order : List String) :
    (evaluate lookup order w).1 = order.map (fun id => (id, answerOf lookup id)) ∧
      (evaluate lookup order w).2.Calm := by
  induction order generalizing w with
  | nil => exact ⟨rfl, calm⟩
  | cons id order ih =>
      rw [evaluate, query_eq calm]
      obtain ⟨hrest, hcalm⟩ := ih (w := ⟨.never, w.lookups ++ [id]⟩) rfl
      exact ⟨congrArg ((id, answerOf lookup id) :: ·) hrest, hcalm⟩

theorem collect_eq {outcomes : List (String × Except Interrupt (List String))} {ids : List String}
    (evaluated : ∀ id ∈ ids, outcomes.lookup id = some (answerOf lookup id)) :
    collect outcomes ids = answersOf lookup ids := by
  induction ids with
  | nil => rfl
  | cons id ids ih =>
      rw [collect, answersOf, evaluated id List.mem_cons_self, Option.getD_some, answerOf]
      cases hlookup : lookup id with
      | error e => rfl
      | ok found =>
          dsimp only
          rw [ih fun id hid => evaluated id (List.mem_cons_of_mem _ hid)]
          cases answersOf lookup ids <;> rfl

theorem lookup_map_self {β : Type} {ids : List String} {id : String} (f : String → β)
    (hid : id ∈ ids) : (ids.map fun id => (id, f id)).lookup id = some (f id) := by
  induction ids with
  | nil => cases hid
  | cons x ids ih =>
      rw [List.map_cons, List.lookup_cons]
      by_cases heq : id = x
      · subst heq
        simp
      · have hne : (id == x) = false := by simpa using heq
        rw [hne]
        exact ih (by simpa [heq] using hid)

/-- A pool comes to the outcome of one worker, in whatever order it makes the lookups. -/
theorem gatherPooled_eq (calm : w.Calm) {order ids : List String} (hperm : order.Perm ids) :
    (gatherPooled lookup order ids w).1 = answersOf lookup ids ∧
      (gatherPooled lookup order ids w).2.Calm := by
  obtain ⟨houtcomes, hcalm⟩ := evaluate_eq lookup calm order
  refine ⟨collect_eq ?_, hcalm⟩
  intro id hid
  rw [houtcomes]
  exact lookup_map_self (answerOf lookup) (hperm.mem_iff.2 hid)

theorem gather_eq (lookup : Lookup) (calm : w.Calm) (pool : Pool) (ids : List String) :
    (gather lookup pool ids w).1 = answersOf lookup (Text.sortedTexts ids) ∧
      (gather lookup pool ids w).2.Calm := by
  unfold gather
  dsimp only
  split
  · exact gatherEach_eq calm _
  · exact gatherPooled_eq calm (pool.schedule.perm _ _)

/-- What is gathered on one pool is gathered on every other. -/
theorem gather_agrees (calm : w.Calm) {w' : Walk} (calm' : w'.Calm) {pool : Pool} (pool' : Pool)
    {ids : List String} {outcome : Except Interrupt CallersMap} {next : Walk}
    (gathered : gather lookup pool ids w = (outcome, next)) :
    next.Calm ∧ ∃ next', gather lookup pool' ids w' = (outcome, next') ∧ next'.Calm := by
  obtain ⟨hresult, hnext⟩ := gather_eq lookup calm pool ids
  obtain ⟨hresult', hnext'⟩ := gather_eq lookup calm' pool' ids
  rw [gathered] at hresult hnext
  have gathered' : (gather lookup pool' ids w').1 = outcome := hresult'.trans hresult.symm
  exact ⟨hnext, (gather lookup pool' ids w').2, Prod.ext gathered' rfl, hnext'⟩

/-- What a gathering comes to with any token is gathered with one that is never cancelled. -/
theorem gather_of_ok (calm : w.Calm) (pool : Pool) {pool' : Pool} {ids : List String}
    {w' next' : Walk} {direct : CallersMap}
    (gathered : gather lookup pool' ids w' = (.ok direct, next')) :
    ∃ next, gather lookup pool ids w = (.ok direct, next) ∧ next.Calm := by
  obtain ⟨hkeys, hentries⟩ := gather_ok gathered
  obtain ⟨hresult, hnext⟩ := gather_eq lookup calm pool ids
  rw [answersOf_eq_ok hkeys hentries] at hresult
  exact ⟨(gather lookup pool ids w).2, Prod.ext hresult rfl, hnext⟩

end Calm

/-! ## Workers that take up lookups -/

/-- A pool that makes lookups and the collecting of their outcomes: the methods that are still to be
handed to the pool, the lookups that wait for a worker, those that a worker is making, and their
outcomes; then the methods whose outcomes are still to be collected, the answers collected so far,
and what the collecting has come to. -/
structure Pooling where
  unsubmitted : List String
  queue : List String
  running : List String
  outcomes : List (String × Except QueryError (List String))
  waiting : List String
  collected : CallersMap
  result : Option (Except Interrupt CallersMap)

namespace Pooling

def start (ids : List String) : Pooling := ⟨ids, [], [], [], ids, [], none⟩

/-- What can happen next to a pool.  A worker that is idle may take up any lookup of the queue.  The
outcomes are collected in order once all lookups are submitted, and the first error that is
collected empties the queue. -/
inductive Step (lookup : Lookup) (workers : Int) : Pooling → Pooling → Prop where
  | submit {p : Pooling} {id : String} {rest : List String} (next : p.unsubmitted = id :: rest) :
      Step lookup workers p { p with unsubmitted := rest, queue := p.queue ++ [id] }
  | take {p : Pooling} {id : String} (queued : id ∈ p.queue) (idle : p.running.length < workers) :
      Step lookup workers p { p with queue := p.queue.erase id, running := id :: p.running }
  | answer {p : Pooling} {id : String} (running : id ∈ p.running) :
      Step lookup workers p
        { p with running := p.running.erase id, outcomes := (id, lookup id) :: p.outcomes }
  | collect {p : Pooling} {id : String} {rest found : List String}
      (submitted : p.unsubmitted = []) (pending : p.result = none) (next : p.waiting = id :: rest)
      (outcome : (id, .ok found) ∈ p.outcomes) :
      Step lookup workers p
        { p with waiting := rest, collected := p.collected ++ [(id, found)] }
  | fail {p : Pooling} {id : String} {rest : List String} {e : QueryError}
      (submitted : p.unsubmitted = []) (pending : p.result = none) (next : p.waiting = id :: rest)
      (outcome : (id, .error e) ∈ p.outcomes) :
      Step lookup workers p { p with queue := [], result := some (.error (.failed e)) }
  | finish {p : Pooling} (submitted : p.unsubmitted = []) (pending : p.result = none)
      (next : p.waiting = []) :
      Step lookup workers p { p with queue := [], result := some (.ok p.collected) }

/-- What steps lead to from a pool that is to look up methods in order. -/
def Reaches (lookup : Lookup) (workers : Int) (ids : List String) (p : Pooling) : Prop :=
  Relation.ReflTransGen (Step lookup workers) (start ids) p

/-- A pool that has done all it ever will: it has come to a result, and no lookup is left. -/
structure Over (p : Pooling) : Prop where
  result : p.result.isSome
  unsubmitted : p.unsubmitted = []
  queue : p.queue = []
  running : p.running = []

/-- However its workers proceed, a pool that looks up methods is over after finitely many steps,
with the given outcome. -/
structure ComesTo (lookup : Lookup) (workers : Int) (ids : List String)
    (outcome : Except Interrupt CallersMap) : Prop where
  finite : WellFounded fun q p : Pooling => Step lookup workers p q
  proceeds : ∀ p, Reaches lookup workers ids p → (∃ q, Step lookup workers p q) ∨ p.Over
  result : ∀ p, Reaches lookup workers ids p → ∀ r, p.result = some r → r = outcome

/-- A lookup whose outcome is still to come or has come. -/
def Placed (p : Pooling) (id : String) : Prop :=
  id ∈ p.unsubmitted ∨ id ∈ p.queue ∨ id ∈ p.running ∨ ∃ outcome, (id, outcome) ∈ p.outcomes

/-- What is collected, with the outcomes that are still to come, is the outcome of the lookups in
order. -/
structure Sound (lookup : Lookup) (ids : List String) (p : Pooling) : Prop where
  outcomes : ∀ outcome ∈ p.outcomes, outcome.2 = lookup outcome.1
  placed : p.result = none → ∀ id ∈ p.waiting, p.Placed id
  collected : p.result = none →
    answersOf lookup ids = (answersOf lookup p.waiting).map (p.collected ++ ·)
  result : ∀ outcome, p.result = some outcome → outcome = answersOf lookup ids

section

variable {lookup : Lookup} {workers : Int} {ids : List String} {p q : Pooling}

theorem sound_start : Sound lookup ids (start ids) where
  outcomes := by simp [start]
  placed := by simp [start, Placed]
  collected _ := by
    change _ = (answersOf lookup ids).map fun m => m
    cases answersOf lookup ids <;> rfl
  result := by simp [start]

/-- A lookup that is placed stays so until the pool comes to a result. -/
theorem Step.placed (step : Step lookup workers p q) (pending : q.result = none) {id : String}
    (placed : p.Placed id) : q.Placed id := by
  cases step with
  | submit next =>
      rcases placed with hunsubmitted | hqueue | hrest
      · rw [next] at hunsubmitted
        rcases List.mem_cons.1 hunsubmitted with rfl | hunsubmitted
        · exact .inr (.inl (List.mem_append_right _ List.mem_cons_self))
        · exact .inl hunsubmitted
      · exact .inr (.inl (List.mem_append_left _ hqueue))
      · exact .inr (.inr hrest)
  | @take taken queued idle =>
      rcases placed with hunsubmitted | hqueue | hrunning | houtcome
      · exact .inl hunsubmitted
      · by_cases heq : id = taken
        · exact .inr (.inr (.inl (heq ▸ List.mem_cons_self)))
        · exact .inr (.inl ((List.mem_erase_of_ne heq).2 hqueue))
      · exact .inr (.inr (.inl (List.mem_cons_of_mem _ hrunning)))
      · exact .inr (.inr (.inr houtcome))
  | @answer answered running =>
      rcases placed with hunsubmitted | hqueue | hrunning | ⟨outcome, houtcome⟩
      · exact .inl hunsubmitted
      · exact .inr (.inl hqueue)
      · by_cases heq : id = answered
        · exact .inr (.inr (.inr ⟨lookup id, heq ▸ List.mem_cons_self⟩))
        · exact .inr (.inr (.inl ((List.mem_erase_of_ne heq).2 hrunning)))
      · exact .inr (.inr (.inr ⟨outcome, List.mem_cons_of_mem _ houtcome⟩))
  | collect submitted _ next outcome => exact placed
  | fail => cases pending
  | finish => cases pending

/-- No step changes what the lookups come to. -/
theorem Step.sound (step : Step lookup workers p q) (sound : Sound lookup ids p) :
    Sound lookup ids q where
  outcomes := by
    cases step with
    | answer running =>
        intro outcome houtcome
        rcases List.mem_cons.1 houtcome with rfl | houtcome
        · rfl
        · exact sound.outcomes outcome houtcome
    | submit next => exact sound.outcomes
    | take queued idle => exact sound.outcomes
    | collect submitted pending next outcome => exact sound.outcomes
    | fail submitted pending next outcome => exact sound.outcomes
    | finish submitted pending next => exact sound.outcomes
  placed pending id hid := by
    refine step.placed pending ?_
    cases step with
    | submit next => exact sound.placed pending id hid
    | take queued idle => exact sound.placed pending id hid
    | answer running => exact sound.placed pending id hid
    | collect submitted pending next outcome =>
        exact sound.placed pending id (next ▸ List.mem_cons_of_mem _ hid)
    | fail => cases pending
    | finish => cases pending
  collected pending := by
    cases step with
    | submit next => exact sound.collected pending
    | take queued idle => exact sound.collected pending
    | answer running => exact sound.collected pending
    | collect submitted pending next outcome =>
        rw [sound.collected pending, next, answersOf, ← sound.outcomes _ outcome]
        dsimp only
        cases answersOf lookup _ <;> simp [Except.map]
    | fail => cases pending
    | finish => cases pending
  result := by
    cases step with
    | submit next => exact sound.result
    | take queued idle => exact sound.result
    | answer running => exact sound.result
    | collect submitted pending next outcome => exact sound.result
    | fail submitted pending next outcome =>
        rintro _ ⟨⟩
        rw [sound.collected pending, next, answersOf, ← sound.outcomes _ outcome]
        rfl
    | finish submitted pending next =>
        rintro _ ⟨⟩
        rw [sound.collected pending, next, answersOf, Except.map, List.append_nil]

theorem Reaches.sound (reaches : Reaches lookup workers ids p) : Sound lookup ids p := by
  induction reaches with
  | refl => exact sound_start
  | tail _ step ih => exact step.sound ih

/-- A pool with a worker goes on until it is over. -/
theorem Sound.step_or_over (sound : Sound lookup ids p) (manned : 0 < workers) :
    (∃ q, Step lookup workers p q) ∨ p.Over := by
  cases hunsubmitted : p.unsubmitted with
  | cons id rest => exact .inl ⟨_, .submit hunsubmitted⟩
  | nil =>
  cases hrunning : p.running with
  | cons id rest => exact .inl ⟨_, .answer (hrunning ▸ List.mem_cons_self)⟩
  | nil =>
  cases hqueue : p.queue with
  | cons id rest =>
      exact .inl ⟨_, .take (hqueue ▸ List.mem_cons_self) (by simpa [hrunning] using manned)⟩
  | nil =>
  cases hresult : p.result with
  | some outcome => exact .inr ⟨by simp [hresult], hunsubmitted, hqueue, hrunning⟩
  | none =>
  cases hwaiting : p.waiting with
  | nil => exact .inl ⟨_, .finish hunsubmitted hresult hwaiting⟩
  | cons id rest =>
      -- nothing is left to be done for a method that is waited for, so its outcome is there
      have hplaced := sound.placed hresult id (hwaiting ▸ List.mem_cons_self)
      obtain ⟨found | e, houtcome⟩ : ∃ outcome, (id, outcome) ∈ p.outcomes := by
        simpa [Placed, hunsubmitted, hqueue, hrunning] using hplaced
      · exact .inl ⟨_, .fail hunsubmitted hresult hwaiting houtcome⟩
      · exact .inl ⟨_, .collect hunsubmitted hresult hwaiting houtcome⟩

def left (p : Pooling) : Nat :=
  3 * p.unsubmitted.length + 2 * p.queue.length + p.running.length + p.waiting.length +
    if p.result = none then 1 else 0

theorem Step.left_lt (step : Step lookup workers p q) : q.left < p.left := by
  cases step with
  | submit next =>
      simp only [left, next, List.length_append, List.length_cons, List.length_nil]
      omega
  | take queued idle =>
      have hlength := List.length_erase_add_one queued
      simp only [left, List.length_cons]
      omega
  | answer running =>
      have hlength := List.length_erase_add_one running
      simp only [left]
      omega
  | collect submitted pending next outcome =>
      simp only [left, next, List.length_cons]
      omega
  | fail submitted pending next outcome =>
      simp only [left, pending, List.length_nil, if_true, reduceCtorEq, if_false]
      omega
  | finish submitted pending next =>
      simp only [left, pending, List.length_nil, if_true, reduceCtorEq, if_false]
      omega

theorem wellFounded_step : WellFounded fun q p : Pooling => Step lookup workers p q :=
  Subrelation.wf Step.left_lt (InvImage.wf left Nat.lt_wfRel.wf)

theorem comesTo (manned : 0 < workers) : ComesTo lookup workers ids (answersOf lookup ids) where
  finite := wellFounded_step
  proceeds _ reaches := reaches.sound.step_or_over manned
  result _ reaches := reaches.sound.result

end

end Pooling

/-! ## Level by level -/

/-- Two expansions that come to the same result with the same methods seen. -/
structure Expanded.Agrees (a b : Expanded) : Prop where
  result_eq : a.result = b.result
  seen_eq : a.seen = b.seen

section Levels

variable {lookup : Lookup} {pool : Pool} {e : Expansion} {w w' : Walk}

/-- An expansion that ends on one pool ends on every other, with any token. -/
theorem Ends.of_calm (ends : Ends lookup pool e w) (calm : w.Calm) (pool' : Pool) (w' : Walk) :
    Ends lookup pool' e w' := by
  unfold Ends at ends
  generalize hstate : (e, w) = state at ends
  induction ends generalizing e w w' with
  | intro state _ ih =>
      subst hstate
      constructor
      rintro ⟨_, next'⟩ ⟨pending, direct, gathered', rfl⟩
      obtain ⟨next, gathered, calm⟩ := gather_of_ok calm pool gathered'
      exact ih (e.advance direct, next) ⟨pending, direct, gathered, rfl⟩ calm next' rfl

/-- Expansions from the same state on different pools stay in the same states. -/
theorem levels_agree (calm : w.Calm) (calm' : w'.Calm) {pool' : Pool}
    (ends : Ends lookup pool e w) (ends' : Ends lookup pool' e w') :
    ∃ result last v v', levels lookup pool e w ends = (result, last, v) ∧
      levels lookup pool' e w' ends' = (result, last, v') ∧ v.Calm ∧ v'.Calm := by
  fun_induction levels lookup pool e w ends generalizing w' with
  | case1 e w ends hempty =>
      exact ⟨_, _, _, _, rfl, levels_of_nil ends' hempty, calm, calm'⟩
  | case2 e w ends pending i next gathered =>
      obtain ⟨hnext, next', gathered', hnext'⟩ := gather_agrees calm calm' pool' gathered
      exact ⟨_, _, _, _, rfl, levels_of_error ends' pending gathered', hnext, hnext'⟩
  | case3 e w ends pending direct next gathered ih =>
      obtain ⟨hnext, next', gathered', hnext'⟩ := gather_agrees calm calm' pool' gathered
      rw [levels_of_ok ends' pending gathered']
      exact ih hnext hnext' _

theorem expand_agrees {start seen : List String} (calm : w.Calm) (calm' : w'.Calm) {pool' : Pool}
    (ends : Ends lookup pool (.start start seen) w)
    (ends' : Ends lookup pool' (.start start seen) w') :
    (expand lookup pool start seen w ends).Agrees (expand lookup pool' start seen w' ends') ∧
      (expand lookup pool start seen w ends).walk.Calm ∧
      (expand lookup pool' start seen w' ends').walk.Calm := by
  obtain ⟨result, last, v, v', hlevels, hlevels', hcalm, hcalm'⟩ :=
    levels_agree calm calm' ends ends'
  unfold expand
  rw [hlevels, hlevels']
  cases result with
  | ok => exact ⟨⟨rfl, rfl⟩, hcalm, hcalm'⟩
  | error i => exact ⟨⟨rfl, rfl⟩, hcalm, hcalm'⟩

end Levels

section Maps

variable {w w' : Walk}

theorem callersAround_agrees (r : FiniteResolver) (scope : SearchScope) (direction : Direction)
    (focus : String) (pool pool' : Pool) (calm : w.Calm) (calm' : w'.Calm) :
    (r.callersAround scope direction pool focus (r.endsAround ..) w).Agrees
        (r.callersAround scope direction pool' focus (r.endsAround ..) w') ∧
      (r.callersAround scope direction pool focus (r.endsAround ..) w).walk.Calm ∧
      (r.callersAround scope direction pool' focus (r.endsAround ..) w').walk.Calm := by
  unfold Resolver.callersAround
  split
  · exact expand_agrees calm calm' _ _
  · exact ⟨⟨rfl, rfl⟩, calm, calm'⟩

theorem calleesAround_agrees (r : FiniteResolver) (scope : SearchScope) (direction : Direction)
    (focus : String) (pool pool' : Pool) (calm : w.Calm) (calm' : w'.Calm) :
    (r.calleesAround scope direction pool focus (r.endsAround ..) w).Agrees
      (r.calleesAround scope direction pool' focus (r.endsAround ..) w') := by
  unfold Resolver.calleesAround
  split
  · exact (expand_agrees calm calm' _ _).1
  · exact ⟨rfl, rfl⟩

theorem focusMap_agrees (r : FiniteResolver) (scope : SearchScope) (direction : Direction)
    (focus : String) (pool pool' : Pool) (calm : w.Calm) (calm' : w'.Calm) :
    (r.focusMap scope direction pool focus w).1 =
      (r.focusMap scope direction pool' focus w').1 := by
  obtain ⟨hup, hcalm, hcalm'⟩ :=
    callersAround_agrees r scope direction focus pool pool' calm calm'
  have hdown := calleesAround_agrees r scope direction focus pool pool' hcalm hcalm'
  unfold FiniteResolver.focusMap Resolver.focusMap
  dsimp only
  rw [← hup.result_eq]
  cases (r.callersAround scope direction pool focus (r.endsAround ..) w).result with
  | error i => rfl
  | ok callers =>
      dsimp only
      rw [← hdown.result_eq]
      cases (r.calleesAround scope direction pool focus (r.endsAround ..)
        (r.callersAround scope direction pool focus (r.endsAround ..) w).walk).result with
      | error i => rfl
      | ok callees => rfl

theorem scopeMap_agrees (r : Resolver) (scope : SearchScope) (pool pool' : Pool) (calm : w.Calm)
    (calm' : w'.Calm) : (scopeMap r scope pool w).1 = (scopeMap r scope pool' w').1 := by
  unfold scopeMap
  cases r.methodsIn scope with
  | error e => rfl
  | ok ids => exact (gather_eq _ calm pool ids).1.trans (gather_eq _ calm' pool' ids).1.symm

/-- Looking up a set of methods comes to the same outcome one after the other and on a pool,
whatever the number of workers and the order in which they take up the lookups: to all the answers,
or to the error of the first method without one.  A pool that drops the lookups nobody has taken up
as soon as an error is collected comes to it as well.  So expansions end on all pools or on none,
with the same result or the same error, and so do the callers maps of methods and scopes. -/
theorem gather_schedule_independent (calm : w.Calm) (calm' : w'.Calm) :
    (∀ (lookup : Lookup) (ids : List String), ∃ outcome, Settles lookup ids outcome ∧
      (gatherEach lookup (Text.sortedTexts ids) w).1 = outcome ∧
      (∀ order, order.Perm (Text.sortedTexts ids) →
        (gatherPooled lookup order (Text.sortedTexts ids) w).1 = outcome) ∧
      (∀ pool, (gather lookup pool ids w).1 = outcome) ∧
      ∀ workers > 0, Pooling.ComesTo lookup workers (Text.sortedTexts ids) outcome) ∧
    (∀ (lookup : Lookup) (start seen : List String) (pool pool' : Pool)
        (ends : Ends lookup pool (.start start seen) w),
      ∃ ends' : Ends lookup pool' (.start start seen) w',
        (expand lookup pool start seen w ends).Agrees
          (expand lookup pool' start seen w' ends')) ∧
    (∀ (r : FiniteResolver) (scope : SearchScope) (start seen : List String) (pool pool' : Pool),
      (r.upstream scope pool start seen w).Agrees (r.upstream scope pool' start seen w') ∧
        (r.downstream pool start seen w).Agrees (r.downstream pool' start seen w')) ∧
    (∀ (r : FiniteResolver) (scope : SearchScope) (direction : Direction) (focus : String)
        (pool pool' : Pool),
      (r.focusMap scope direction pool focus w).1 =
        (r.focusMap scope direction pool' focus w').1) ∧
    ∀ (r : Resolver) (scope : SearchScope) (pool pool' : Pool),
      (scopeMap r scope pool w).1 = (scopeMap r scope pool' w').1 := by
  refine ⟨?_, ?_, ?_, ?_, ?_⟩
  · intro lookup ids
    refine ⟨answersOf lookup (Text.sortedTexts ids), answersOf_settles, (gatherEach_eq calm _).1,
      fun order hperm => (gatherPooled_eq calm hperm).1,
      fun pool => (gather_eq lookup calm pool ids).1,
      fun workers manned => Pooling.comesTo manned⟩
  · intro lookup start seen pool pool' ends
    have ends' := ends.of_calm calm pool' w'
    exact ⟨ends', (expand_agrees calm calm' ends ends').1⟩
  · intro r scope start seen pool pool'
    exact ⟨(expand_agrees calm calm' _ _).1, (expand_agrees calm calm' _ _).1⟩
  · intro r scope direction focus pool pool'
    exact focusMap_agrees r scope direction focus pool pool' calm calm'
  · intro r scope pool pool'
    exact scopeMap_agrees r scope pool pool' calm calm'

/-- Two workers that begin with the last method meet its error first, but the error of the second
method counts, which one worker meets. -/
theorem gather_schedule_independent_two_errors :
    let lookup : Lookup := fun id => if id = "a" then .ok ["b"] else .error (.unavailable id)
    let backward : Pool := ⟨2, fun _ ids => ids.reverse, fun _ ids => ids.reverse_perm⟩
    (gather lookup backward ["c", "a", "b"] (.start .never)).1 =
        .error (.failed (.unavailable "b")) ∧
      (gather lookup ⟨1, .given⟩ ["c", "a", "b"] (.start .never)).1 =
        .error (.failed (.unavailable "b")) := by
  intro lookup backward
  have calm : (Walk.start .never).Calm := rfl
  obtain ⟨outcome, settles, -, -, hgather, -⟩ :=
    (gather_schedule_independent calm calm).1 lookup ["c", "a", "b"]
  have hfirst : ∀ x ∈ ["c", "a", "b"], x < "b" → ∃ found, lookup x = .ok found := by
    intro x hx hlt
    have hx : x = "c" ∨ x = "a" ∨ x = "b" := by simpa using hx
    rcases hx with rfl | rfl | rfl
    · exact absurd hlt (by decide)
    · exact ⟨["b"], rfl⟩
    · exact absurd hlt (by decide)
  have houtcome := settles.failed "b" (.unavailable "b") (by simp) rfl hfirst
  exact ⟨(hgather backward).trans houtcome, (hgather _).trans houtcome⟩

end Maps

end Traversal

end CallAtlas
