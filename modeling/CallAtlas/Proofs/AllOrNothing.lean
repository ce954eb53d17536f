import CallAtlas.Proofs.Outcome
import CallAtlas.Proofs.Pooling

/-!
# All or nothing

Work that looks at its token passes the token on, so the looks of its parts add up.  A run with one
worker looks at its token a number of times that only the run decides.  A token that lasts so many
looks changes nothing in the outcome, and with any other the run is cancelled.
-/

namespace CallAtlas

open Project (SearchScope Host)
open Settings (Session)

namespace Token

def spend : Nat → Token → Option Token
  | 0, t => some t
  | n + 1, t => t.check.bind (spend n)

theorem spend_never (n : Nat) : never.spend n = some never := by
  induction n with
  | zero => rfl
  | succ n ih => exact ih

theorem spend_after_add (n k : Nat) : (after (n + k)).spend n = some (after k) := by
  induction n with
  | zero => rw [Nat.zero_add, spend]
  | succ n ih =>
      rw [Nat.succ_add]
      exact ih

theorem spend_after_eq_none {n k : Nat} (hlt : k < n) : (after k).spend n = none := by
  induction n generalizing k with
  | zero => exact absurd hlt (Nat.not_lt_zero k)
  | succ n ih =>
      cases k with
      | zero => rfl
      | succ k => exact ih (Nat.lt_of_succ_lt_succ hlt)

theorem spend_add (m n : Nat) (t : Token) : t.spend (m + n) = (t.spend m).bind (spend n) := by
  induction m generalizing t with
  | zero => rw [Nat.zero_add, spend, Option.bind_some]
  | succ m ih =>
      rw [Nat.succ_add, spend, spend]
      cases t.check with
      | none => rfl
      | some t => exact ih t

theorem spend_one (t : Token) : t.spend 1 = t.check := Option.bind_fun_some _

end Token

/-! ## Work that looks at its token -/

section Work

variable {ε ε' α β : Type}

/-- After the lookups `made`, work looks at its token `n` times.  With a token that lasts, it comes
to its outcome and leaves what remains of the token; with any other it stops. -/
structure Looks (stop : ε) (work : Walk → Except ε α × Walk) (made : List String) (n : Nat)
    (outcome : Except ε α) (made' : List String) : Prop where
  lasts : ∀ t t', t.spend n = some t' → work ⟨t, made⟩ = (outcome, ⟨t', made'⟩)
  stops : ∀ t, t.spend n = none → (work ⟨t, made⟩).1 = .error stop

/-- Work that comes to the same outcome with every token that lasts, and stops with any other. -/
def AllOrNothing (stop : ε) (work : Walk → Except ε α × Walk) (made : List String) : Prop :=
  ∃ n outcome made', Looks stop work made n outcome made'

namespace Walk

/-- Goes on with what work comes to, unless it fails. -/
def andThen (first : Walk → Except ε α × Walk) (next : α → Walk → Except ε β × Walk) (w : Walk) :
    Except ε β × Walk :=
  match first w with
  | (.error e, w) => (.error e, w)
  | (.ok a, w) => next a w

/-- Work whose failures are told in other words. -/
def retold (work : Walk → Except ε α × Walk) (tell : ε → ε') (w : Walk) : Except ε' α × Walk :=
  match work w with
  | (.error e, w) => (.error (tell e), w)
  | (.ok a, w) => (.ok a, w)

end Walk

variable {stop : ε} {made made' : List String} {n : Nat}

theorem Looks.never {work : Walk → Except ε α × Walk} {outcome : Except ε α}
    (looks : Looks stop work made n outcome made') :
    work ⟨.never, made⟩ = (outcome, ⟨.never, made'⟩) :=
  looks.lasts .never .never (Token.spend_never n)

theorem looks_check : Looks .cancelled Walk.check made 1 (.ok ()) made where
  lasts t t' hspend := by
    rw [Token.spend_one] at hspend
    rw [Walk.check, hspend]
  stops t hspend := by
    rw [Token.spend_one] at hspend
    rw [Walk.check, hspend]

theorem looks_query (lookup : Lookup) (id : String) :
    Looks .cancelled (Walk.query lookup id) made 1 (Traversal.answerOf lookup id)
      (made ++ [id]) where
  lasts t t' hspend := by
    rw [Token.spend_one] at hspend
    simp only [Walk.query, hspend, Traversal.answerOf]
    cases lookup id <;> rfl
  stops t hspend := by
    rw [Token.spend_one] at hspend
    simp only [Walk.query, hspend]

namespace AllOrNothing

/-- Work without a look at the token. -/
theorem of_const (outcome : Except ε α) :
    AllOrNothing stop (fun w => (outcome, w)) made := by
  refine ⟨0, outcome, made, ?_, ?_⟩
  · rintro t t' ⟨⟩
    rfl
  · rintro t ⟨⟩

/-- The looks of two pieces of work add up, unless the first one fails. -/
theorem followed {first : Walk → Except ε α × Walk} {work : Walk → Except ε β × Walk}
    (hfirst : AllOrNothing stop first made)
    (herror : ∀ w e w', first w = (.error e, w') → work w = (.error e, w'))
    (hok : ∀ a made', first ⟨.never, made⟩ = (.ok a, ⟨.never, made'⟩) →
      ∃ next, AllOrNothing stop next made' ∧
        ∀ w w', first w = (.ok a, w') → work w = next w') :
    AllOrNothing stop work made := by
  obtain ⟨n, outcome, made', looks⟩ := hfirst
  have hstops : ∀ t, t.spend n = none → (work ⟨t, made⟩).1 = .error stop := by
    intro t hspend
    rw [herror _ stop (first ⟨t, made⟩).2 (Prod.ext (looks.stops t hspend) rfl)]
  cases outcome with
  | error e =>
      exact ⟨n, .error e, made', fun t t' hspend => herror _ _ _ (looks.lasts t t' hspend), hstops⟩
  | ok a =>
      obtain ⟨next, ⟨m, outcome, made'', looks'⟩, hnext⟩ := hok a made' looks.never
      refine ⟨n + m, outcome, made'', fun t t' hspend => ?_, fun t hspend => ?_⟩
      · rw [Token.spend_add] at hspend
        obtain ⟨u, hu, hspend⟩ := Option.bind_eq_some_iff.1 hspend
        rw [hnext _ _ (looks.lasts t u hu)]
        exact looks'.lasts u t' hspend
      · rw [Token.spend_add] at hspend
        cases hu : t.spend n with
        | none => exact hstops t hu
        | some u =>
            rw [hu, Option.bind_some] at hspend
            rw [hnext _ _ (looks.lasts t u hu)]
            exact looks'.stops u hspend

theorem andThen {first : Walk → Except ε α × Walk} {next : α → Walk → Except ε β × Walk}
    (hfirst : AllOrNothing stop first made) (hnext : ∀ a made', AllOrNothing stop (next a) made') :
    AllOrNothing stop (Walk.andThen first next) made := by
  refine hfirst.followed (fun w e w' h => ?_) fun a made' _ =>
    ⟨next a, hnext a made', fun w w' h => ?_⟩
  · rw [Walk.andThen, h]
  · rw [Walk.andThen, h]

theorem retold {work : Walk → Except ε α × Walk} (hwork : AllOrNothing stop work made)
    (tell : ε → ε') : AllOrNothing (tell stop) (Walk.retold work tell) made := by
  obtain ⟨n, outcome, made', looks⟩ := hwork
  refine ⟨n, outcome.mapError tell, made', fun t t' hspend => ?_, fun t hspend => ?_⟩
  · rw [Walk.retold, looks.lasts t t' hspend]
    cases outcome <;> rfl
  · have hstop := looks.stops t hspend
    rw [Walk.retold]
    generalize work ⟨t, made⟩ = result at hstop
    obtain ⟨outcome, w⟩ := result
    cases hstop
    rfl

end AllOrNothing

end Work

namespace Traversal

variable {lookup : Lookup} {pool : Pool} {made : List String}

theorem gatherEach_cons (id : String) (ids : List String) :
    gatherEach lookup (id :: ids) = Walk.andThen (Walk.query lookup id) fun found =>
      Walk.andThen (gatherEach lookup ids) fun rest w => (.ok ((id, found) :: rest), w) := by
  funext w
  rw [gatherEach, Walk.andThen]
  rcases w.query lookup id with ⟨i | found, w⟩
  · rfl
  · dsimp only
    rw [Walk.andThen]
    rcases gatherEach lookup ids w with ⟨i | rest, w⟩ <;> rfl

theorem gatherEach_allOrNothing (ids : List String) :
    AllOrNothing .cancelled (gatherEach lookup ids) made := by
  induction ids generalizing made with
  | nil => exact .of_const (.ok [])
  | cons id ids ih =>
      rw [gatherEach_cons]
      refine .andThen ⟨_, _, _, looks_query lookup id⟩ fun found made' => ?_
      exact .andThen ih fun rest made'' => .of_const _

theorem gather_allOrNothing (lookup : Lookup) (alone : pool.workers ≤ 1) (ids : List String) :
    AllOrNothing .cancelled (gather lookup pool ids) made := by
  rw [funext (gather_of_alone alone lookup ids)]
  exact gatherEach_allOrNothing _

/-- What an expansion comes to, apart from the methods it has seen. -/
def Expanded.outcome (expanded : Expanded) : Except Interrupt CallersMap × Walk :=
  (expanded.result, expanded.walk)

def found (lookup : Lookup) (pool : Pool) (e : Expansion) (ends : ∀ w, Ends lookup pool e w)
    (w : Walk) : Except Interrupt CallersMap × Walk :=
  (Expanded.ofLevels (levels lookup pool e w (ends w))).outcome

theorem found_allOrNothing (alone : pool.workers ≤ 1) {e : Expansion}
    (ends : ∀ w, Ends lookup pool e w) :
    AllOrNothing .cancelled (found lookup pool e ends) made := by
  have hacc : Acc (Next lookup pool) (e, ⟨.never, made⟩) := ends _
  generalize hstate : (e, (⟨.never, made⟩ : Walk)) = state at hacc
  -- the levels of a token that lasts are those of one that is never cancelled
  induction hacc generalizing e made with
  | intro state hacc ih =>
      subst hstate
      by_cases hempty : e.frontier = []
      · have heq : found lookup pool e ends = fun w => (.ok e.found, w) := by
          funext w
          rw [found, levels_of_nil (ends w) hempty]
          rfl
        rw [heq]
        exact .of_const _
      · refine (gather_allOrNothing lookup alone e.frontier).followed ?_ ?_
        · intro w i w' hgather
          rw [found, levels_of_error (ends w) hempty hgather]
          rfl
        · intro direct made' hgather
          have hnext : Next lookup pool (e.advance direct, ⟨.never, made'⟩) (e, ⟨.never, made⟩) :=
            ⟨hempty, direct, hgather, rfl⟩
          have ends' : ∀ w, Ends lookup pool (e.advance direct) w :=
            Ends.of_calm (hacc _ hnext) rfl pool
          refine ⟨found lookup pool (e.advance direct) ends', ih _ hnext ends' rfl, ?_⟩
          intro w w' hgather
          rw [found, levels_of_ok (ends w) hempty hgather]
          rfl

theorem callersAround_allOrNothing (r : FiniteResolver) (scope : SearchScope)
    (direction : Direction) (alone : pool.workers ≤ 1) (focus : String) :
    AllOrNothing .cancelled
      (fun w => (r.callersAround scope direction pool focus (r.endsAround ..) w).outcome) made := by
  unfold Resolver.callersAround
  split
  · exact found_allOrNothing alone (r.callers_end scope pool [focus] [])
  · exact .of_const (.ok [])

theorem calleesAround_allOrNothing (r : FiniteResolver) (scope : SearchScope)
    (direction : Direction) (alone : pool.workers ≤ 1) (focus : String) :
    AllOrNothing .cancelled
      (fun w => (r.calleesAround scope direction pool focus (r.endsAround ..) w).outcome) made := by
  unfold Resolver.calleesAround
  split
  · exact found_allOrNothing alone (r.callees_end pool [focus] [])
  · exact .of_const (.ok [])

theorem focusMap_eq (r : FiniteResolver) (scope : SearchScope) (direction : Direction)
    (focus : String) :
    r.focusMap scope direction pool focus =
      Walk.andThen
        (fun w => (r.callersAround scope direction pool focus (r.endsAround ..) w).outcome)
        fun callers =>
      Walk.andThen
        (fun w => (r.calleesAround scope direction pool focus (r.endsAround ..) w).outcome)
        fun callees w =>
          (.ok (CallersMap.mergeAll [[(focus, [])], callers, CallersMap.invert callees]), w) := by
  funext w
  unfold FiniteResolver.focusMap Resolver.focusMap Walk.andThen Expanded.outcome
  dsimp only
  cases (r.callersAround scope direction pool focus (r.endsAround ..) w).result with
  | error i => rfl
  | ok callers =>
      dsimp only
      cases (r.calleesAround scope direction pool focus (r.endsAround ..)
        (r.callersAround scope direction pool focus (r.endsAround ..) w).walk).result <;> rfl

theorem focusMap_allOrNothing (r : FiniteResolver) (scope : SearchScope) (direction : Direction)
    (alone : pool.workers ≤ 1) (focus : String) :
    AllOrNothing .cancelled (r.focusMap scope direction pool focus) made := by
  rw [focusMap_eq]
  refine .andThen (callersAround_allOrNothing r scope direction alone focus) fun callers made' => ?_
  exact .andThen (calleesAround_allOrNothing r scope direction alone focus) fun _ _ => .of_const _

theorem scopeMap_allOrNothing (r : Resolver) (scope : SearchScope) (alone : pool.workers ≤ 1) :
    AllOrNothing .cancelled (scopeMap r scope pool) made := by
  unfold scopeMap
  cases r.methodsIn scope with
  | error e => exact .of_const _
  | ok ids => exact gather_allOrNothing _ alone ids

end Traversal

namespace Runner

variable {r : Runner} {s : Session} {engine : Layout.Engine} {request : RunRequest}
  {made : List String}

def pool (r : Runner) : Pool := ⟨r.config.analysis.maxWorkers, r.schedule⟩

theorem gatherMap_eq (r : Runner) (resolver : FiniteResolver) (scope : SearchScope)
    (request : RunRequest) :
    r.gatherMap resolver scope request =
      match request.focus with
      | none =>
        Walk.retold (Traversal.scopeMap resolver.toResolver scope r.pool) RunFailure.interrupted
      | some id =>
        match resolver.method? id with
        | .error e => fun w => (.error (.interrupted (.failed e)), w)
        | .ok none => fun w => (.error (.unknownMethod id), w)
        | .ok (some m) =>
          Walk.retold (resolver.focusMap scope request.direction r.pool m.id)
            RunFailure.interrupted := by
  funext w
  unfold gatherMap
  cases request.focus with
  | none =>
      change _ = Walk.retold (Traversal.scopeMap resolver.toResolver scope r.pool) _ w
      unfold Walk.retold pool
      dsimp only
      rcases Traversal.scopeMap _ _ _ w with ⟨i | m, w⟩ <;> rfl
  | some id =>
      dsimp only
      rcases resolver.method? id with e | _ | m
      · rfl
      · rfl
      · unfold Walk.retold pool
        dsimp only
        rcases resolver.focusMap _ _ _ m.id w with ⟨i | m, w⟩ <;> rfl

theorem gatherMap_allOrNothing (alone : r.config.analysis.maxWorkers ≤ 1)
    (resolver : FiniteResolver) (scope : SearchScope) :
    AllOrNothing (.interrupted .cancelled) (r.gatherMap resolver scope request) made := by
  have alone : r.pool.workers ≤ 1 := alone
  rw [gatherMap_eq]
  cases request.focus with
  | none => exact (Traversal.scopeMap_allOrNothing _ scope alone).retold _
  | some id =>
      dsimp only
      rcases resolver.method? id with e | _ | m
      · exact .of_const _
      · exact .of_const _
      · exact (Traversal.focusMap_allOrNothing resolver scope _ alone m.id).retold _

theorem gather_eq (r : Runner) (host : Host) (request : RunRequest) :
    r.gather host request =
      match Project.searchScope host r.project (.ok r.filter) request.selection with
      | .error e => fun w => (.error (.project e), w)
      | .ok scope =>
        if scope.isEmpty then fun w => (.error (.noActiveScope request.selection.label), w)
        else
          Walk.andThen (Walk.retold Walk.check RunFailure.interrupted) fun _ =>
            match r.runResolver host with
            | .error e => fun w => (.error (.interrupted (.failed e)), w)
            | .ok resolver =>
              Walk.andThen (r.gatherMap resolver scope request) fun m w =>
                (.ok ⟨m, resolver⟩, w) := by
  funext w
  unfold gather
  cases Project.searchScope host r.project (.ok r.filter) request.selection with
  | error e => rfl
  | ok scope =>
      dsimp only
      split
      · rfl
      · unfold Walk.andThen Walk.retold
        rcases w.check with ⟨i | ⟨⟩, w⟩
        · rfl
        · dsimp only
          cases r.runResolver host with
          | error e => rfl
          | ok resolver =>
              dsimp only
              rcases r.gatherMap resolver scope request w with ⟨f | m, w⟩ <;> rfl

theorem gather_allOrNothing (alone : r.config.analysis.maxWorkers ≤ 1) (host : Host) :
    AllOrNothing (.interrupted .cancelled) (r.gather host request) made := by
  rw [gather_eq]
  cases Project.searchScope host r.project (.ok r.filter) request.selection with
  | error e => exact .of_const _
  | ok scope =>
      dsimp only
      split
      · exact .of_const _
      · refine .andThen (.retold ⟨_, _, _, looks_check⟩ _) fun _ made' => ?_
        cases r.runResolver host with
        | error e => exact .of_const _
        | ok resolver =>
            exact .andThen (gatherMap_allOrNothing alone resolver scope) fun _ _ => .of_const _

/-! ## A run in one piece -/

def look : Walk → Except Fault Unit × Walk := Walk.retold Walk.check fun _ => .cancelled

def layOut (r : Runner) (s : Session) (engine : Layout.Engine) (g : CallGraph) :
    Walk → Except Fault CallGraph × Walk :=
  let layout := r.config.layout
  if g.isEmpty then fun w => (.ok g, w)
  else
    match s.settingsOrDefaults.1 with
    | .error e => fun w => (.error (RunFailure.layout (.settings e)).fault, w)
    | .ok _ =>
      Walk.andThen look fun _ =>
        match engine (Layout.describe g layout.rankDir) with
        | .error e => fun w => (.error (RunFailure.layout (.engine e)).fault, w)
        | .ok text =>
          Walk.andThen look fun _ =>
            match Layout.apply g text ⟨layout.gridScaleX, layout.gridScaleY⟩ with
            | .error f => fun w => (.error (RunFailure.layout f).fault, w)
            | .ok g => fun w => (.ok g, w)

/-- Everything that a run does with its graph: the layout and a last look at the token. -/
def close (r : Runner) (s : Session) (engine : Layout.Engine) (callers : CallersMap)
    (g : CallGraph) : Walk → Except Fault (CallersMap × CallGraph) × Walk :=
  Walk.andThen (r.layOut s engine g) fun g =>
    Walk.andThen look fun _ w => (.ok (callers, g), w)

/-- A run in one piece: what it gathers and lays out, and what is left of its token. -/
def whole (r : Runner) (s : Session) (engine : Layout.Engine) (request : RunRequest) :
    Walk → Except Fault (CallersMap × CallGraph) × Walk :=
  Walk.andThen (Walk.retold (r.gather s.host request) RunFailure.fault) fun gathered =>
    Walk.andThen look fun _ =>
      Walk.andThen look fun _ => r.close s engine gathered.callers gathered.graph

/-- The outcome of a run that comes to a fault or to a laid out graph. -/
def outcome (label : String) : Except Fault (CallersMap × CallGraph) → RunResult
  | .error f => f.result label
  | .ok (callers, g) => .finished label callers g

/-- The outcome of a run whose engine is asked if the run waits for it. -/
def Stage.result (engine : Layout.Engine) : Stage → RunResult
  | .ended result => result
  | .waiting w => complete w (engine w.description)

theorem andThen_look {α : Type} (next : Unit → Walk → Except Fault α × Walk) (t : Token) :
    Walk.andThen look next ⟨t, made⟩ =
      match t.check with
      | none => (.error .cancelled, ⟨t, made⟩)
      | some t => next () ⟨t, made⟩ := by
  unfold Walk.andThen look Walk.retold Walk.check
  cases t.check <;> rfl

theorem conclude_eq (label : String) (callers : CallersMap) (g : CallGraph) (t : Token) :
    conclude label callers g t =
      outcome label
        (Walk.andThen look (fun _ w => (.ok (callers, g), w)) (⟨t, made⟩ : Walk)).1 := by
  rw [andThen_look, conclude]
  cases t.check <;> rfl

theorem prepareLayout_eq (r : Runner) (s : Session) (engine : Layout.Engine) (label : String)
    (callers : CallersMap) (g : CallGraph) (t : Token) :
    (r.prepareLayout s label callers g t).1.result engine =
      outcome label (r.close s engine callers g ⟨t, made⟩).1 := by
  unfold prepareLayout close layOut
  dsimp only
  generalize (⟨r.config.layout.gridScaleX, r.config.layout.gridScaleY⟩ : Layout.Pair) = scale
  split
  · exact conclude_eq label callers g t
  rcases s.settingsOrDefaults with ⟨e | config, s'⟩
  · rfl
  dsimp only
  rw [Walk.andThen, andThen_look]
  cases t.check with
  | none => rfl
  | some t =>
      dsimp only
      rw [Stage.result, complete, Layout.finish.eq_def]
      cases engine (Layout.describe g r.config.layout.rankDir) with
      | error e => rfl
      | ok text =>
          dsimp only
          rw [andThen_look]
          cases t.check with
          | none => rfl
          | some t =>
              dsimp only
              cases Layout.apply g text scale with
              | error f => rfl
              | ok g => exact conclude_eq label callers g t

theorem run_eq (r : Runner) (s : Session) (engine : Layout.Engine) (request : RunRequest)
    (token : Token) :
    (r.run s engine request token).1 =
      outcome request.sourceLabel (r.whole s engine request (.start token)).1 := by
  have hstage : (r.run s engine request token).1 =
      (r.prepare s request token).1.result engine := by
    unfold run
    rcases r.prepare s request token with ⟨result | w, s⟩ <;> rfl
  rw [hstage]
  unfold prepare whole
  rw [Walk.andThen, Walk.retold]
  rcases r.gather s.host request (.start token) with ⟨f | gathered, t, made⟩
  · rfl
  · dsimp only
    rw [andThen_look]
    cases t.check with
    | none => rfl
    | some t =>
        dsimp only
        rw [andThen_look]
        cases t.check with
        | none => rfl
        | some t => exact prepareLayout_eq r s engine _ _ _ t

theorem look_allOrNothing : AllOrNothing .cancelled look made :=
  .retold ⟨_, _, _, looks_check⟩ fun _ => Fault.cancelled

theorem close_allOrNothing (callers : CallersMap) (g : CallGraph) :
    AllOrNothing .cancelled (r.close s engine callers g) made := by
  refine .andThen ?_ fun g made' => .andThen look_allOrNothing fun _ _ => .of_const _
  unfold layOut
  dsimp only
  split
  · exact .of_const _
  cases s.settingsOrDefaults.1 with
  | error e => exact .of_const _
  | ok config =>
      refine .andThen look_allOrNothing fun _ made' => ?_
      cases engine (Layout.describe g r.config.layout.rankDir) with
      | error e => exact .of_const _
      | ok text =>
          refine .andThen look_allOrNothing fun _ made'' => ?_
          cases Layout.apply g text ⟨r.config.layout.gridScaleX, r.config.layout.gridScaleY⟩ with
          | error f => exact .of_const _
          | ok g => exact .of_const _

theorem whole_allOrNothing (alone : r.config.analysis.maxWorkers ≤ 1) :
    AllOrNothing .cancelled (r.whole s engine request) made := by
  refine .andThen ((gather_allOrNothing alone s.host).retold RunFailure.fault) fun gathered _ => ?_
  refine .andThen look_allOrNothing fun _ _ => .andThen look_allOrNothing fun _ _ => ?_
  exact close_allOrNothing gathered.callers gathered.graph

/-- A run that is not cancelled looks at its token so many times: whatever a token lasts beyond
that is left when the run ends. -/
def LooksAtToken (r : Runner) (s : Session) (engine : Layout.Engine) (request : RunRequest)
    (n : Nat) : Prop :=
  ∀ k, (r.whole s engine request (.start (.after (n + k)))).2.token = .after k

theorem LooksAtToken.unique {m n : Nat} (hm : r.LooksAtToken s engine request m)
    (hn : r.LooksAtToken s engine request n) : m = n := by
  have hmn := hm n
  rw [Nat.add_comm, hn m] at hmn
  injection hmn with hmn
  injection hmn

/-- A run with one worker, taken in one piece, looks at its token a number of times.  A token that
is cancelled before the last of these looks cancels the run, and one that is cancelled later leaves
the outcome as it is without a cancellation. -/
theorem run_all_or_nothing (r : Runner) (s : Session) (engine : Layout.Engine)
    (request : RunRequest) (alone : r.config.analysis.maxWorkers ≤ 1) :
    (∀ token, (r.run s engine request token).1 =
      outcome request.sourceLabel (r.whole s engine request (.start token)).1) ∧
    ∃ looks, (∀ n, r.LooksAtToken s engine request n ↔ n = looks) ∧
      ∀ n, (n < looks →
          (r.run s engine request (.after n)).1 = .cancelled request.sourceLabel) ∧
        (looks ≤ n →
          (r.run s engine request (.after n)).1 = (r.run s engine request .never).1) := by
  have hwhole : AllOrNothing .cancelled (r.whole s engine request) [] := whole_allOrNothing alone
  obtain ⟨looks, result, made', h⟩ := hwhole
  have hlooks : r.LooksAtToken s engine request looks := by
    intro k
    rw [Walk.start, h.lasts _ _ (Token.spend_after_add looks k)]
  refine ⟨run_eq r s engine request, looks, fun n => ?_, fun n => ⟨?_, ?_⟩⟩
  · exact ⟨fun hn => hn.unique hlooks, fun hn => hn ▸ hlooks⟩
  · intro hlt
    rw [run_eq, Walk.start, h.stops _ (Token.spend_after_eq_none hlt)]
    rfl
  · intro hle
    obtain ⟨k, rfl⟩ := Nat.exists_eq_add_of_le hle
    rw [run_eq, run_eq, Walk.start, Walk.start, h.never,
      h.lasts _ _ (Token.spend_after_add looks k)]

/-- A runner with one worker over a method that calls itself. -/
def lone : Runner :=
  { small with
    config := { small.config with analysis := { small.config.analysis with maxWorkers := 1 } }
    resolver := some (.ofCalls [.ofId "a.py::f"] [.make ["a.py::f"] "a.py::f" none] 1 none) }

/-- The run over one method looks at its token seven times: once for its scope, once for the method,
before and after it builds the graph, before and after the engine, and at the end. -/
theorem run_all_or_nothing_lone :
    let engine := Layout.Engine.fixed "graph 1 1 1\nstop\n"
    lone.config.analysis.maxWorkers ≤ 1 ∧ lone.LooksAtToken noFiles engine .default 7 ∧
      (∀ n < 7, (lone.run noFiles engine .default (.after n)).1 =
        .cancelled RunRequest.default.sourceLabel) ∧
      (∀ n ≥ 7, (lone.run noFiles engine .default (.after n)).1 =
        (lone.run noFiles engine .default .never).1) ∧
      (lone.run noFiles engine .default .never).1.status = .completed := by
  intro engine
  have alone : lone.config.analysis.maxWorkers ≤ 1 := le_refl 1
  obtain ⟨-, looks, hlooks, hrun⟩ := run_all_or_nothing lone noFiles engine .default alone
  have hsix : (lone.run noFiles engine .default (.after 6)).1.status = .cancelled := by
    decide +kernel
  have hseven : (lone.run noFiles engine .default (.after 7)).1.status = .completed := by
    decide +kernel
  have hle : looks ≤ 7 := by
    by_contra hlt
    rw [(hrun 7).1 (Nat.lt_of_not_le hlt)] at hseven
    cases hseven
  have hnever : (lone.run noFiles engine .default .never).1.status = .completed := by
    rw [← (hrun 7).2 hle, hseven]
  obtain rfl : looks = 7 := by
    refine le_antisymm hle (Nat.lt_of_not_le fun hle => ?_)
    rw [(hrun 6).2 hle, hnever] at hsix
    cases hsix
  exact ⟨alone, (hlooks 7).2 rfl, fun n => (hrun n).1, fun n => (hrun n).2, hnever⟩

end Runner

end CallAtlas
