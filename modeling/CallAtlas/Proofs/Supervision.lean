import CallAtlas.Run.Supervisor
import Mathlib.Data.List.Nodup
import Mathlib.Logic.Relation

/-!
# Supervision is safe

The steps of a supervisor are the starts of runs, what the workers of the runs do one after the
other, and cancellations from outside.  They may come in any order.  Of every order it holds that
only the current run can still report something, that what a run has reported stays, and that a
listener is told once at most, after the report and never of a cancelled run.
-/

namespace CallAtlas

/-- What an analysis may come to: if it is cancelled, it has no graph. -/
def RunResult.Possible (r : RunResult) : Prop := r.status = .cancelled → r.graph = none

/-- A result that tells nothing but that the run was cancelled. -/
def RunResult.Discarded (r : RunResult) : Prop := r.status = .cancelled ∧ r.graph = none

namespace RunHandle

inductive Change : RunHandle → RunHandle → Prop where
  | same (h : RunHandle) : Change h h
  | cancel (h : RunHandle) : Change h h.cancel
  | returned (h : RunHandle) {result : RunResult} (possible : result.Possible) :
      Change h (h.returned result)
  | finish (h : RunHandle) : Change h h.finish
  | close (h : RunHandle) : Change h h.close

/-- What a worker knows agrees with what its run has reported. -/
def Consistent (h : RunHandle) : Prop :=
  match h.worker with
  | .running => h.result = none
  | .returned result => h.result = none ∧ result.Possible
  | .reported result => h.result = some result ∧ result.Possible
  | .ended => ∃ result, h.result = some result ∧ result.Possible

/-- A run that has reported or will report nothing but its cancellation. -/
def Settled (h : RunHandle) : Prop := h.isDone = true ∨ h.cancelled = true

/-- A run that was cancelled before it reported. -/
def Condemned (h : RunHandle) : Prop :=
  h.cancelled = true ∧ h.result = none ∨ ∃ result, h.result = some result ∧ result.Discarded

/-- A run whose listener has been told a result. -/
structure Told (h : RunHandle) (result : RunResult) : Prop where
  ended : h.worker = .ended
  stored : h.result = some result
  listened : h.listened = true
  status_ne : result.status ≠ .cancelled

variable {h h' : RunHandle} {result : RunResult}

theorem supersede_change (h : RunHandle) : Change h h.supersede := by
  unfold supersede
  split
  · exact .same h
  · exact .cancel h

theorem supersede_settled (h : RunHandle) : h.supersede.Settled := by
  unfold supersede
  split
  · rename_i hdone
    exact .inl hdone
  · exact .inr rfl

theorem outcome_possible (h : RunHandle) (possible : result.Possible) :
    (h.outcome result).Possible := by
  unfold outcome
  split
  · intro _
    rfl
  · exact possible

theorem outcome_discarded (hcancelled : h.cancelled = true) (possible : result.Possible) :
    (h.outcome result).Discarded := by
  unfold outcome
  rw [hcancelled, Bool.true_and]
  split
  · exact ⟨rfl, rfl⟩
  · rename_i hstatus
    have hstatus : result.status = .cancelled := by simpa using hstatus
    exact ⟨hstatus, possible hstatus⟩

theorem Consistent.of_running (consistent : h.Consistent) (hworker : h.worker = .running) :
    h.result = none := by
  unfold Consistent at consistent
  rwa [hworker] at consistent

theorem Consistent.of_returned (consistent : h.Consistent) (hworker : h.worker = .returned result) :
    h.result = none ∧ result.Possible := by
  unfold Consistent at consistent
  rwa [hworker] at consistent

theorem Consistent.of_reported (consistent : h.Consistent) (hworker : h.worker = .reported result) :
    h.result = some result ∧ result.Possible := by
  unfold Consistent at consistent
  rwa [hworker] at consistent

theorem Change.consistent (change : Change h h') (consistent : h.Consistent) : h'.Consistent := by
  cases change with
  | same => exact consistent
  | cancel => exact consistent
  | returned possible =>
      unfold RunHandle.returned
      split
      · rename_i hworker
        exact ⟨consistent.of_running hworker, possible⟩
      · exact consistent
  | finish =>
      unfold RunHandle.finish
      split
      · rename_i result hworker
        exact ⟨rfl, h.outcome_possible (consistent.of_returned hworker).2⟩
      · exact consistent
  | close =>
      unfold RunHandle.close
      split
      · rename_i result hworker
        exact ⟨result, consistent.of_reported hworker⟩
      · exact consistent

/-- Only the report of a worker that has a result changes what a run has reported. -/
theorem Change.result_cases (change : Change h h') :
    h'.result = h.result ∨
      ∃ result, h.worker = .returned result ∧ h'.result = some (h.outcome result) := by
  cases change with
  | same => exact .inl rfl
  | cancel => exact .inl rfl
  | returned possible =>
      unfold RunHandle.returned
      split <;> exact .inl rfl
  | finish =>
      unfold RunHandle.finish
      split
      · rename_i result hworker
        exact .inr ⟨result, hworker, rfl⟩
      · exact .inl rfl
  | close =>
      unfold RunHandle.close
      split <;> exact .inl rfl

/-- What a run has reported stays. -/
theorem Change.result_eq (change : Change h h') (consistent : h.Consistent)
    (hresult : h.result = some result) : h'.result = some result := by
  rcases change.result_cases with hsame | ⟨returned, hworker, -⟩
  · rw [hsame, hresult]
  · rw [(consistent.of_returned hworker).1] at hresult
    cases hresult

theorem Change.cancelled_eq (change : Change h h') (hcancelled : h.cancelled = true) :
    h'.cancelled = true := by
  cases change with
  | same => exact hcancelled
  | cancel => rfl
  | returned possible =>
      unfold RunHandle.returned
      split <;> exact hcancelled
  | finish =>
      unfold RunHandle.finish
      split <;> exact hcancelled
  | close =>
      unfold RunHandle.close
      split <;> exact hcancelled

theorem Change.settled (change : Change h h') (consistent : h.Consistent) (settled : h.Settled) :
    h'.Settled := by
  rcases settled with hdone | hcancelled
  · obtain ⟨result, hresult⟩ := Option.isSome_iff_exists.1 hdone
    exact .inl (Option.isSome_iff_exists.2 ⟨result, change.result_eq consistent hresult⟩)
  · exact .inr (change.cancelled_eq hcancelled)

/-- A run that was cancelled before it reported never reports anything else. -/
theorem Change.condemned (change : Change h h') (consistent : h.Consistent)
    (condemned : h.Condemned) : h'.Condemned := by
  rcases condemned with ⟨hcancelled, hnone⟩ | ⟨result, hresult, discarded⟩
  · rcases change.result_cases with hsame | ⟨result, hworker, hresult⟩
    · exact .inl ⟨change.cancelled_eq hcancelled, hsame.trans hnone⟩
    · exact .inr ⟨_, hresult, outcome_discarded hcancelled (consistent.of_returned hworker).2⟩
  · exact .inr ⟨result, change.result_eq consistent hresult, discarded⟩

theorem told_cancel : h.cancel.Told result ↔ h.Told result := by
  constructor
  · rintro ⟨ended, stored, listened, hstatus⟩
    exact ⟨ended, stored, listened, hstatus⟩
  · rintro ⟨ended, stored, listened, hstatus⟩
    exact ⟨ended, stored, listened, hstatus⟩

theorem told_supersede : h.supersede.Told result ↔ h.Told result := by
  unfold supersede
  split
  · rfl
  · exact told_cancel

theorem told_returned {returned : RunResult} :
    (h.returned returned).Told result ↔ h.Told result := by
  unfold RunHandle.returned
  split
  · rename_i hworker
    constructor
    · rintro ⟨ended, -⟩
      cases ended
    · rintro ⟨ended, -⟩
      cases hworker.symm.trans ended
  · rfl

theorem told_finish : h.finish.Told result ↔ h.Told result := by
  unfold RunHandle.finish
  split
  · rename_i hworker
    constructor
    · rintro ⟨ended, -⟩
      cases ended
    · rintro ⟨ended, -⟩
      cases hworker.symm.trans ended
  · rfl

theorem announced_eq_some : h.announced = some result ↔
    h.worker = .reported result ∧ h.listened = true ∧ result.status ≠ .cancelled := by
  unfold announced
  split
  · rename_i reported hworker
    constructor
    · intro hsome
      split at hsome
      · rename_i hcondition
        obtain ⟨hlistened, hstatus⟩ := Bool.and_eq_true_iff.1 hcondition
        obtain rfl := Option.some.inj hsome
        exact ⟨hworker, hlistened, by simpa using hstatus⟩
      · cases hsome
    · rintro ⟨hreported, hlistened, hstatus⟩
      obtain rfl := Worker.reported.inj (hworker.symm.trans hreported)
      rw [if_pos]
      simp [hlistened, hstatus]
  · rename_i hworker
    constructor
    · intro hnone
      cases hnone
    · rintro ⟨hreported, -⟩
      exact absurd hreported (hworker result)

/-- Closing tells the listener what there is to announce. -/
theorem told_close (consistent : h.Consistent) :
    h.close.Told result ↔ h.Told result ∨ h.announced = some result := by
  rw [announced_eq_some]
  unfold close
  split
  · rename_i reported hworker
    obtain ⟨hstored, -⟩ := consistent.of_reported hworker
    constructor
    · rintro ⟨-, stored, listened, hstatus⟩
      obtain rfl := Option.some.inj (hstored.symm.trans stored)
      exact .inr ⟨hworker, listened, hstatus⟩
    · rintro (⟨ended, -⟩ | ⟨hreported, hlistened, hstatus⟩)
      · cases hworker.symm.trans ended
      · obtain rfl := Worker.reported.inj (hworker.symm.trans hreported)
        exact ⟨rfl, hstored, hlistened, hstatus⟩
  · rename_i hworker
    constructor
    · exact Or.inl
    · rintro (told | ⟨hreported, -⟩)
      · exact told
      · exact absurd hreported (hworker result)

theorem not_announced_of_told {other : RunResult} (told : h.Told result) :
    h.announced ≠ some other := by
  intro hannounced
  cases told.ended.symm.trans (announced_eq_some.1 hannounced).1

end RunHandle

namespace Supervisor

open RunHandle (Change)

/-! ## Steps -/

/-- One step of a supervisor: a run is started, the analysis of a run comes to a result, a worker
reports, a listener is told, or a run is cancelled from outside. -/
inductive Step : Supervisor → Supervisor → Prop where
  | begin (s : Supervisor) (request : RunRequest) (listened : Bool) :
      Step s (s.begin request listened)
  | returned (s : Supervisor) (i : Nat) {result : RunResult} (possible : result.Possible) :
      Step s (s.returned i result)
  | finish (s : Supervisor) (i : Nat) : Step s (s.finish i)
  | deliver (s : Supervisor) (i : Nat) : Step s (s.deliver i)
  | cancel (s : Supervisor) (i : Nat) : Step s (s.cancel i)

abbrev Steps : Supervisor → Supervisor → Prop := Relation.ReflTransGen Step

def Reachable (s : Supervisor) : Prop := Steps .start s

variable {s s' : Supervisor} {i j : Nat} {h h' : RunHandle} {result : RunResult}

theorem update_getElem? (s : Supervisor) (i j : Nat) (change : RunHandle → RunHandle) :
    (s.update i change).handles[j]? = s.handles[j]?.map fun h => if i = j then change h else h :=
  List.getElem?_modify change i s.handles j

theorem length_update (s : Supervisor) (i : Nat) (change : RunHandle → RunHandle) :
    (s.update i change).handles.length = s.handles.length :=
  List.length_modify ..

theorem update_change {change : RunHandle → RunHandle} (hchange : ∀ h, Change h (change h))
    (i : Nat) (hs : s.handles[j]? = some h) :
    ∃ h', (s.update i change).handles[j]? = some h' ∧ Change h h' := by
  rw [update_getElem?, hs]
  refine ⟨_, rfl, ?_⟩
  split
  · exact hchange h
  · exact .same h

theorem supersede_getElem? (s : Supervisor) (j : Nat) :
    s.supersede.handles[j]? =
      s.handles[j]?.map fun h => if s.current = some j then h.supersede else h := by
  unfold Supervisor.supersede
  split
  · rename_i hcurrent
    simp [hcurrent]
  · rename_i i hcurrent
    rw [update_getElem?, hcurrent]
    simp only [Option.some.injEq]

theorem length_supersede (s : Supervisor) : s.supersede.handles.length = s.handles.length := by
  unfold Supervisor.supersede
  split
  · rfl
  · exact length_update ..

/-- A run after the start of another one: the current one is superseded. -/
theorem begin_getElem?_of_lt (s : Supervisor) (request : RunRequest) (listened : Bool)
    (hj : j < s.handles.length) :
    (s.begin request listened).handles[j]? =
      s.handles[j]?.map fun h => if s.current = some j then h.supersede else h := by
  have hj : j < s.supersede.handles.length := by rwa [length_supersede]
  exact (List.getElem?_append_left hj).trans (supersede_getElem? s j)

theorem begin_getElem?_length (s : Supervisor) (request : RunRequest) (listened : Bool) :
    (s.begin request listened).handles[s.handles.length]? = some (.start request listened) := by
  rw [← length_supersede]
  exact List.getElem?_concat_length ..

theorem length_begin (s : Supervisor) (request : RunRequest) (listened : Bool) :
    (s.begin request listened).handles.length = s.handles.length + 1 := by
  have happend : (s.begin request listened).handles.length = s.supersede.handles.length + 1 :=
    List.length_append
  rw [happend, length_supersede]

/-- Every step keeps the runs there are and changes them one by one. -/
theorem Step.change (step : Step s s') (hs : s.handles[j]? = some h) :
    ∃ h', s'.handles[j]? = some h' ∧ Change h h' := by
  cases step with
  | begin request listened =>
      have hj : j < s.handles.length := (List.getElem?_eq_some_iff.1 hs).1
      rw [begin_getElem?_of_lt s request listened hj, hs]
      refine ⟨_, rfl, ?_⟩
      split
      · exact h.supersede_change
      · exact .same h
  | returned i possible => exact update_change (fun h => .returned h possible) i hs
  | finish i => exact update_change .finish i hs
  | deliver i => exact update_change (s := s) .close i hs
  | cancel i => exact update_change .cancel i hs

/-! ## The invariant -/

/-- What holds of the runs of a supervisor after any steps. -/
structure Orderly (s : Supervisor) : Prop where
  consistent : ∀ (i : Nat) (h : RunHandle), s.handles[i]? = some h → h.Consistent
  /-- The run that was started last is current. -/
  current_iff : ∀ i, s.current = some i ↔ i + 1 = s.handles.length
  settled : ∀ (i : Nat) (h : RunHandle),
    s.handles[i]? = some h → s.current ≠ some i → h.Settled

/-- What holds of a supervisor after any steps. -/
structure Invariant (s : Supervisor) : Prop extends Orderly s where
  mem_deliveries : ∀ (i : Nat) (result : RunResult),
    (i, result) ∈ s.deliveries ↔ ∃ h : RunHandle, s.handles[i]? = some h ∧ h.Told result
  deliveries_nodup : (s.deliveries.map (·.1)).Nodup

theorem invariant_start : Invariant .start where
  consistent := by simp [start]
  current_iff := by simp [start]
  settled := by simp [start]
  mem_deliveries := by simp [start]
  deliveries_nodup := List.nodup_nil

theorem Orderly.update (orderly : Orderly s) (i : Nat) {change : RunHandle → RunHandle}
    (hchange : ∀ h, Change h (change h)) : Orderly (s.update i change) := by
  have horigin : ∀ (j : Nat) (h' : RunHandle), (s.update i change).handles[j]? = some h' →
      ∃ h, s.handles[j]? = some h ∧ Change h h' := by
    intro j h' hs'
    have hj : j < s.handles.length := by
      rw [← length_update s i change]
      exact (List.getElem?_eq_some_iff.1 hs').1
    have hs : s.handles[j]? = some s.handles[j] := List.getElem?_eq_getElem hj
    obtain ⟨h, hh, hchanged⟩ := update_change hchange i hs
    obtain rfl := Option.some.inj (hh.symm.trans hs')
    exact ⟨_, hs, hchanged⟩
  constructor
  · intro j h' hs
    obtain ⟨h, hh, change⟩ := horigin j h' hs
    exact change.consistent (orderly.consistent j h hh)
  · intro j
    rw [length_update]
    exact orderly.current_iff j
  · intro j h' hs hcurrent
    obtain ⟨h, hh, change⟩ := horigin j h' hs
    exact change.settled (orderly.consistent j h hh) (orderly.settled j h hh hcurrent)

theorem told_update (s : Supervisor) (change : RunHandle → RunHandle) :
    (∃ h, (s.update i change).handles[j]? = some h ∧ h.Told result) ↔
      ∃ h, s.handles[j]? = some h ∧ (if i = j then change h else h).Told result := by
  rw [update_getElem?]
  constructor
  · rintro ⟨h', hs, told⟩
    obtain ⟨h, hh, rfl⟩ := Option.map_eq_some_iff.1 hs
    exact ⟨h, hh, told⟩
  · rintro ⟨h, hh, told⟩
    exact ⟨_, Option.map_eq_some_iff.2 ⟨h, hh, rfl⟩, told⟩

theorem Invariant.update (inv : Invariant s) (i : Nat) {change : RunHandle → RunHandle}
    (hchange : ∀ h, Change h (change h))
    (htold : ∀ h result, (change h).Told result ↔ h.Told result) :
    Invariant (s.update i change) where
  toOrderly := inv.toOrderly.update i hchange
  mem_deliveries j result := by
    have hsame : ∀ h : RunHandle, (if i = j then change h else h).Told result ↔ h.Told result := by
      intro h
      split
      · exact htold h result
      · rfl
    rw [told_update]
    simp only [hsame]
    exact inv.mem_deliveries j result
  deliveries_nodup := inv.deliveries_nodup

theorem Invariant.begin (inv : Invariant s) (request : RunRequest) (listened : Bool) :
    Invariant (s.begin request listened) := by
  have hcases : ∀ (j : Nat) (h' : RunHandle), (s.begin request listened).handles[j]? = some h' →
      (∃ h, s.handles[j]? = some h ∧ h' = if s.current = some j then h.supersede else h) ∨
        j = s.handles.length ∧ h' = .start request listened := by
    intro j h' hs
    have hj : j < s.handles.length + 1 := by
      rw [← length_begin s request listened]
      exact (List.getElem?_eq_some_iff.1 hs).1
    rcases Nat.lt_or_ge j s.handles.length with hlt | hge
    · rw [begin_getElem?_of_lt s request listened hlt] at hs
      obtain ⟨h, hh, rfl⟩ := Option.map_eq_some_iff.1 hs
      exact .inl ⟨h, hh, rfl⟩
    · obtain rfl : j = s.handles.length := by omega
      rw [begin_getElem?_length] at hs
      exact .inr ⟨rfl, (Option.some.inj hs).symm⟩
  have hcurrent : (s.begin request listened).current = some s.handles.length := by
    rw [← length_supersede]
    rfl
  have hdeliveries : (s.begin request listened).deliveries = s.deliveries := by
    unfold Supervisor.begin Supervisor.supersede
    cases s.current <;> rfl
  constructor
  case toOrderly =>
    constructor
    · intro j h' hs
      rcases hcases j h' hs with ⟨h, hh, rfl⟩ | ⟨-, rfl⟩
      · split
        · exact h.supersede_change.consistent (inv.consistent j h hh)
        · exact inv.consistent j h hh
      · rfl
    · intro j
      rw [hcurrent, length_begin, Option.some.injEq, Nat.add_right_cancel_iff, eq_comm]
    · intro j h' hs hother
      rcases hcases j h' hs with ⟨h, hh, rfl⟩ | ⟨rfl, rfl⟩
      · split
        · exact h.supersede_settled
        · rename_i hnot
          exact inv.settled j h hh hnot
      · exact absurd hcurrent hother
  case mem_deliveries =>
    intro j result
    rw [hdeliveries, inv.mem_deliveries j result]
    constructor
    · rintro ⟨h, hh, told⟩
      have hj : j < s.handles.length := (List.getElem?_eq_some_iff.1 hh).1
      refine ⟨if s.current = some j then h.supersede else h, ?_, ?_⟩
      · rw [begin_getElem?_of_lt s request listened hj, hh, Option.map_some]
      · split
        · exact RunHandle.told_supersede.2 told
        · exact told
    · rintro ⟨h', hs, told⟩
      rcases hcases j h' hs with ⟨h, hh, rfl⟩ | ⟨rfl, rfl⟩
      · refine ⟨h, hh, ?_⟩
        split at told
        · exact RunHandle.told_supersede.1 told
        · exact told
      · cases told.ended
  case deliveries_nodup =>
    rw [hdeliveries]
    exact inv.deliveries_nodup

theorem mem_deliver {p : Nat × RunResult} :
    p ∈ (s.deliver i).deliveries ↔ p ∈ s.deliveries ∨
      p.1 = i ∧ ∃ h, s.handles[i]? = some h ∧ h.announced = some p.2 := by
  obtain ⟨j, result⟩ := p
  simp only [deliver, List.mem_append, List.mem_map, Option.mem_toList, Option.bind_eq_some_iff,
    Prod.mk.injEq]
  constructor
  · rintro (hmem | ⟨result', ⟨h, hh, hannounced⟩, rfl, rfl⟩)
    · exact .inl hmem
    · exact .inr ⟨rfl, h, hh, hannounced⟩
  · rintro (hmem | ⟨rfl, h, hh, hannounced⟩)
    · exact .inl hmem
    · exact .inr ⟨result, ⟨h, hh, hannounced⟩, rfl, rfl⟩

theorem Invariant.deliver (inv : Invariant s) (i : Nat) : Invariant (s.deliver i) := by
  have horderly : Orderly (s.update i RunHandle.close) := inv.toOrderly.update i .close
  constructor
  case toOrderly => exact ⟨horderly.consistent, horderly.current_iff, horderly.settled⟩
  case mem_deliveries =>
    intro j result
    rw [mem_deliver, inv.mem_deliveries j result]
    refine Iff.trans ?_ (told_update s RunHandle.close).symm
    constructor
    · rintro (⟨h, hh, told⟩ | ⟨rfl, h, hh, hannounced⟩)
      · refine ⟨h, hh, ?_⟩
        split
        · exact (RunHandle.told_close (inv.consistent j h hh)).2 (.inl told)
        · exact told
      · refine ⟨h, hh, ?_⟩
        rw [if_pos rfl]
        exact (RunHandle.told_close (inv.consistent _ h hh)).2 (.inr hannounced)
    · rintro ⟨h, hh, told⟩
      split at told
      · rename_i hij
        subst hij
        rcases (RunHandle.told_close (inv.consistent i h hh)).1 told with told | hannounced
        · exact .inl ⟨h, hh, told⟩
        · exact .inr ⟨rfl, h, hh, hannounced⟩
      · exact .inl ⟨h, hh, told⟩
  case deliveries_nodup =>
    rw [Supervisor.deliver]
    cases hannounced : s.handles[i]?.bind RunHandle.announced with
    | none => simpa using inv.deliveries_nodup
    | some result =>
        obtain ⟨h, hh, hsome⟩ := Option.bind_eq_some_iff.1 hannounced
        -- A run that has something to announce has not announced anything yet.
        have hfresh : i ∉ s.deliveries.map (·.1) := by
          intro hmem
          obtain ⟨⟨j, delivered⟩, hdelivered, rfl⟩ := List.mem_map.1 hmem
          obtain ⟨h', hh', told⟩ := (inv.mem_deliveries j delivered).1 hdelivered
          obtain rfl := Option.some.inj (hh.symm.trans hh')
          exact RunHandle.not_announced_of_told told hsome
        simp only [Option.toList_some, List.map_cons, List.map_nil, List.map_append]
        exact inv.deliveries_nodup.append (List.nodup_singleton i) (by simpa using hfresh)

theorem Invariant.step (inv : Invariant s) (step : Step s s') : Invariant s' := by
  cases step with
  | begin request listened => exact inv.begin request listened
  | returned i possible =>
      exact inv.update i (fun h => .returned h possible) fun _ _ => RunHandle.told_returned
  | finish i => exact inv.update i .finish fun _ _ => RunHandle.told_finish
  | deliver i => exact inv.deliver i
  | cancel i => exact inv.update i .cancel fun _ _ => RunHandle.told_cancel

theorem Invariant.steps (inv : Invariant s) (steps : Steps s s') : Invariant s' := by
  induction steps with
  | refl => exact inv
  | tail steps step ih => exact ih.step step

theorem Reachable.invariant (reachable : Reachable s) : Invariant s :=
  invariant_start.steps reachable

/-! ## Along any steps -/

/-- What a run has reported stays, and so does a cancellation before the report. -/
theorem Invariant.along (inv : Invariant s) (steps : Steps s s') (hs : s.handles[i]? = some h) :
    ∃ h', s'.handles[i]? = some h' ∧ (∀ result, h.result = some result → h'.result = some result) ∧
      (h.Condemned → h'.Condemned) := by
  induction steps with
  | refl => exact ⟨h, hs, fun _ hresult => hresult, fun condemned => condemned⟩
  | tail steps step ih =>
      obtain ⟨h₁, hs₁, hresult₁, hcondemned₁⟩ := ih
      obtain ⟨h', hs', change⟩ := step.change hs₁
      have consistent := (inv.steps steps).consistent i h₁ hs₁
      refine ⟨h', hs', ?_, ?_⟩
      · intro result hresult
        exact change.result_eq consistent (hresult₁ result hresult)
      · intro condemned
        exact change.condemned consistent (hcondemned₁ condemned)

/-- The report of a run: nothing of its result if it is cancelled, otherwise all of it. -/
theorem Invariant.report (inv : Invariant s) (hs : s.handles[i]? = some h)
    {returned : RunResult} (hworker : h.worker = .returned returned) :
    ∃ h' result, (s.finish i).handles[i]? = some h' ∧ h'.result = some result ∧
      (h.cancelled = true → result.Discarded) ∧ (h.cancelled = false → result = returned) := by
  refine ⟨h.finish, h.outcome returned, ?_, ?_, ?_, ?_⟩
  · rw [Supervisor.finish, update_getElem?, hs, Option.map_some, if_pos rfl]
  · rw [RunHandle.finish, hworker]
  · intro hcancelled
    exact RunHandle.outcome_discarded hcancelled ((inv.consistent i h hs).of_returned hworker).2
  · intro hcancelled
    rw [RunHandle.outcome, hcancelled, Bool.false_and]
    rfl

/-- A step tells a listener only what its run has already reported. -/
theorem Invariant.new_delivery (inv : Invariant s) (step : Step s s')
    (hmem : (i, result) ∈ s'.deliveries) (hnew : (i, result) ∉ s.deliveries) :
    ∃ h, s.handles[i]? = some h ∧ h.result = some result ∧ result.status ≠ .cancelled := by
  cases step with
  | begin request listened =>
      refine absurd ?_ hnew
      revert hmem
      unfold Supervisor.begin Supervisor.supersede
      cases s.current <;> exact id
  | returned j possible => exact absurd hmem hnew
  | finish j => exact absurd hmem hnew
  | deliver j =>
      rcases mem_deliver.1 hmem with hmem | ⟨rfl, h, hh, hannounced⟩
      · exact absurd hmem hnew
      · obtain ⟨hworker, -, hstatus⟩ := RunHandle.announced_eq_some.1 hannounced
        exact ⟨h, hh, ((inv.consistent _ h hh).of_reported hworker).1, hstatus⟩
  | cancel j => exact absurd hmem hnew

/-- After any order of steps of any number of runs, every run but the one started last has reported
or is cancelled.  What a run has reported never changes.  A run that is cancelled before its report
reports its cancellation and nothing else, whatever its analysis came to.  A listener is told once at
most, after the report, exactly what was reported, and never of a cancelled run. -/
theorem runs_report_once (reachable : Reachable s) :
    (∀ i, s.current = some i ↔ i + 1 = s.handles.length) ∧
    (∀ (i : Nat) (h : RunHandle), s.handles[i]? = some h → s.current ≠ some i →
      h.isDone = true ∨ h.cancelled = true) ∧
    (∀ s', Steps s s' → ∀ (i : Nat) (h : RunHandle), s.handles[i]? = some h →
      ∃ h', s'.handles[i]? = some h' ∧
        (∀ result, h.result = some result → h'.result = some result) ∧
        (h.cancelled = true → h.result = none → ∀ result, h'.result = some result →
          result.status = .cancelled ∧ result.graph = none)) ∧
    (∀ (i : Nat) (h : RunHandle) (returned : RunResult), s.handles[i]? = some h →
      h.worker = .returned returned →
      ∃ h' result, (s.finish i).handles[i]? = some h' ∧ h'.result = some result ∧
        (h.cancelled = true → result.status = .cancelled ∧ result.graph = none) ∧
        (h.cancelled = false → result = returned)) ∧
    (s.deliveries.map (·.1)).Nodup ∧
    (∀ (i : Nat) (result : RunResult), (i, result) ∈ s.deliveries ↔
      ∃ h, s.handles[i]? = some h ∧ h.worker = .ended ∧ h.result = some result ∧
        h.listened = true ∧ result.status ≠ .cancelled) ∧
    ∀ s', Step s s' → ∀ (i : Nat) (result : RunResult), (i, result) ∈ s'.deliveries →
      (i, result) ∉ s.deliveries →
      ∃ h, s.handles[i]? = some h ∧ h.result = some result ∧ result.status ≠ .cancelled := by
  have inv := reachable.invariant
  refine ⟨inv.current_iff, inv.settled, ?_, ?_, inv.deliveries_nodup, ?_, ?_⟩
  · intro s' steps i h hs
    obtain ⟨h', hs', hresult, hcondemned⟩ := inv.along steps hs
    refine ⟨h', hs', hresult, ?_⟩
    intro hcancelled hnone result hresult'
    rcases hcondemned (.inl ⟨hcancelled, hnone⟩) with ⟨-, hnone'⟩ | ⟨stored, hstored, discarded⟩
    · rw [hnone'] at hresult'
      cases hresult'
    · obtain rfl := Option.some.inj (hstored.symm.trans hresult')
      exact discarded
  · intro i h returned hs hworker
    exact inv.report hs hworker
  · intro i result
    rw [inv.mem_deliveries]
    constructor
    · rintro ⟨h, hs, ended, stored, listened, hstatus⟩
      exact ⟨h, hs, ended, stored, listened, hstatus⟩
    · rintro ⟨h, hs, ended, stored, listened, hstatus⟩
      exact ⟨h, hs, ended, stored, listened, hstatus⟩
  · intro s' step i result hmem hnew
    exact inv.new_delivery step hmem hnew

/-- A run that is superseded after its analysis has completed: its report tells nothing of the
graph. -/
theorem runs_report_once_superseded :
    let graph : RunResult := ⟨.completed, "Source: a", some .empty, none, 0, 0⟩
    let s := ((start.begin .default true).returned 0 graph).begin .default true
    s.current = some 1 ∧ ∃ h result, (s.finish 0).handles[0]? = some h ∧ h.result = some result ∧
      result.status = .cancelled ∧ result.graph = none := by
  intro graph s
  have hreachable : Reachable s := by
    refine .tail (.tail (.tail .refl (.begin _ .default true)) (.returned _ 0 ?_)) (.begin _ .default true)
    intro hstatus
    cases hstatus
  obtain ⟨hcurrent, -, -, hreport, -⟩ := runs_report_once hreachable
  obtain ⟨h', result, hs', hresult, hdiscarded, -⟩ :=
    hreport 0 ⟨.default, true, true, none, .returned graph⟩ graph rfl rfl
  exact ⟨(hcurrent 1).2 rfl, h', result, hs', hresult, hdiscarded rfl⟩

end Supervisor

end CallAtlas
