import CallAtlas.Proofs.Supervision

/-!
# The order of deliveries

A run that has not reported when the next one is started is never heard of.  So what a listener is
told follows the order of the starts as long as no run is started between a report and its delivery.
A run that is started just there may be delivered before the report that waits.
-/

namespace CallAtlas

namespace RunHandle

variable {h h' : RunHandle} {result : RunResult}

/-- A run that has nothing to announce and never will. -/
def Mute (h : RunHandle) : Prop := h.worker = .ended ∨ h.listened = false ∨ h.Condemned

theorem Change.ended (change : Change h h') (ended : h.worker = .ended) : h'.worker = .ended := by
  cases change with
  | same => exact ended
  | cancel => exact ended
  | returned possible => rw [RunHandle.returned, ended]; exact ended
  | finish => rw [RunHandle.finish, ended]; exact ended
  | close => rw [RunHandle.close, ended]; exact ended

theorem Change.listened_eq (change : Change h h') : h'.listened = h.listened := by
  cases change with
  | same => rfl
  | cancel => rfl
  | returned possible => unfold RunHandle.returned; split <;> rfl
  | finish => unfold RunHandle.finish; split <;> rfl
  | close => unfold RunHandle.close; split <;> rfl

theorem Change.mute (change : Change h h') (consistent : h.Consistent) (mute : h.Mute) :
    h'.Mute := by
  rcases mute with ended | unheard | condemned
  · exact .inl (change.ended ended)
  · exact .inr (.inl (change.listened_eq.trans unheard))
  · exact .inr (.inr (change.condemned consistent condemned))

theorem Condemned.not_told (condemned : h.Condemned) : ¬ h.Told result := by
  rintro ⟨-, stored, -, hstatus⟩
  rcases condemned with ⟨-, hnone⟩ | ⟨other, hother, discarded⟩
  · cases hnone.symm.trans stored
  · obtain rfl := Option.some.inj (hother.symm.trans stored)
    exact hstatus discarded.1

theorem Mute.not_announced (mute : h.Mute) (consistent : h.Consistent) :
    h.announced ≠ some result := by
  intro hannounced
  obtain ⟨hworker, hlistened, hstatus⟩ := announced_eq_some.1 hannounced
  obtain ⟨hstored, -⟩ := consistent.of_reported hworker
  rcases mute with ended | unheard | ⟨-, hnone⟩ | ⟨other, hother, discarded⟩
  · cases hworker.symm.trans ended
  · cases hlistened.symm.trans unheard
  · cases hnone.symm.trans hstored
  · obtain rfl := Option.some.inj (hother.symm.trans hstored)
    exact hstatus discarded.1

/-- A run with nothing to announce is silenced by the start of another one. -/
theorem supersede_mute (consistent : h.Consistent) (quiet : h.announced = none) :
    h.supersede.Mute := by
  have hsilenced : h.result = none → h.supersede.Mute := by
    intro hnone
    refine .inr (.inr (.inl ?_))
    rw [supersede, isDone, hnone]
    exact ⟨rfl, hnone⟩
  cases hworker : h.worker with
  | running => exact hsilenced (consistent.of_running hworker)
  | returned result => exact hsilenced (consistent.of_returned hworker).1
  | ended => exact .inl (h.supersede_change.ended hworker)
  | reported result =>
      obtain ⟨hstored, possible⟩ := consistent.of_reported hworker
      by_cases hlistened : h.listened = true
      · have hstatus : result.status = .cancelled := by
          by_contra hstatus
          rw [announced_eq_some.2 ⟨hworker, hlistened, hstatus⟩] at quiet
          cases quiet
        refine h.supersede_change.mute consistent (.inr (.inr (.inr ⟨result, hstored, ?_⟩)))
        exact ⟨hstatus, possible hstatus⟩
      · refine h.supersede_change.mute consistent (.inr (.inl ?_))
        exact Bool.eq_false_iff.2 hlistened

end RunHandle

namespace Supervisor

open RunHandle (Change)

variable {s s' : Supervisor} {i : Nat} {h : RunHandle} {result : RunResult}

/-- No report waits for its delivery. -/
def Quiet (s : Supervisor) : Prop := ∀ h ∈ s.handles, h.announced = none

/-- A step that starts no run while a report waits for its delivery. -/
structure PromptStep (s s' : Supervisor) : Prop where
  step : Step s s'
  quiet : s.handles.length < s'.handles.length → s.Quiet

theorem PromptStep.of_length (step : Step s s') (h : s'.handles.length = s.handles.length) :
    PromptStep s s' :=
  ⟨step, fun hstarted => absurd h (Nat.ne_of_gt hstarted)⟩

/-- What steps lead to that start no run while a report waits for its delivery. -/
def PromptlyReachable (s : Supervisor) : Prop := Relation.ReflTransGen PromptStep .start s

theorem steps_of_prompt (steps : Relation.ReflTransGen PromptStep s s') : Steps s s' :=
  Relation.ReflTransGen.mono (fun _ _ prompt => prompt.step) _ _ steps

/-- A run comes to a result, reports and is delivered at once. -/
theorem settles_promptly (s : Supervisor) (i : Nat) (possible : result.Possible) :
    Relation.ReflTransGen PromptStep s (((s.returned i result).finish i).deliver i) := by
  have hreturned : PromptStep s (s.returned i result) :=
    .of_length (.returned s i possible) (length_update ..)
  have hfinish := PromptStep.of_length (.finish (s.returned i result) i) (length_update ..)
  have hdeliver := PromptStep.of_length (.deliver ((s.returned i result).finish i) i)
    (length_update ..)
  exact .tail (.tail (.single hreturned) hfinish) hdeliver

/-- Only the current run may still have something to announce, and deliveries follow the order of
the starts. -/
structure InOrder (s : Supervisor) : Prop extends Invariant s where
  mute : ∀ (i : Nat) (h : RunHandle), s.handles[i]? = some h → s.current ≠ some i → h.Mute
  sorted : (s.deliveries.map (·.1)).Pairwise (· < ·)

theorem inOrder_start : InOrder .start where
  toInvariant := invariant_start
  mute := by simp [start]
  sorted := List.Pairwise.nil

/-- A step starts a run or keeps the number of runs. -/
theorem Step.begin_or_length (step : Step s s') :
    (∃ request listened, s' = s.begin request listened) ∨
      s'.handles.length = s.handles.length := by
  cases step with
  | begin request listened => exact .inl ⟨request, listened, rfl⟩
  | returned i possible => exact .inr (length_update ..)
  | finish i => exact .inr (length_update ..)
  | deliver i => exact .inr (length_update ..)
  | cancel i => exact .inr (length_update ..)

/-- A step delivers nothing or what one run has to announce. -/
theorem Step.deliveries (step : Step s s') :
    s'.deliveries = s.deliveries ∨ ∃ i h result, s.handles[i]? = some h ∧
      h.announced = some result ∧ s'.deliveries = s.deliveries ++ [(i, result)] := by
  cases step with
  | begin request listened =>
      unfold Supervisor.begin Supervisor.supersede
      cases s.current <;> exact .inl rfl
  | returned i possible => exact .inl rfl
  | finish i => exact .inl rfl
  | cancel i => exact .inl rfl
  | deliver i =>
      rw [Supervisor.deliver]
      cases hannounced : s.handles[i]?.bind RunHandle.announced with
      | none => exact .inl (List.append_nil _)
      | some result =>
          obtain ⟨h, hh, hsome⟩ := Option.bind_eq_some_iff.1 hannounced
          exact .inr ⟨i, h, result, hh, hsome, rfl⟩

theorem InOrder.mute_of_step (inOrder : InOrder s) (prompt : PromptStep s s') {j : Nat}
    {h' : RunHandle} (hs' : s'.handles[j]? = some h') (hcurrent' : s'.current ≠ some j) :
    h'.Mute := by
  have inv' := inOrder.toInvariant.step prompt.step
  have hj' : j < s'.handles.length := (List.getElem?_eq_some_iff.1 hs').1
  have hlast : j + 1 ≠ s'.handles.length := fun heq => hcurrent' ((inv'.current_iff j).2 heq)
  rcases prompt.step.begin_or_length with ⟨request, listened, rfl⟩ | hlength
  · have hlength := length_begin s request listened
    have quiet := prompt.quiet (by omega)
    rw [begin_getElem?_of_lt s request listened (by omega)] at hs'
    obtain ⟨h, hs, rfl⟩ := Option.map_eq_some_iff.1 hs'
    split
    · exact RunHandle.supersede_mute (inOrder.consistent j h hs)
        (quiet h (List.mem_of_getElem? hs))
    · rename_i hother
      exact inOrder.mute j h hs hother
  · have hother : s.current ≠ some j := by
      rw [Ne, inOrder.current_iff]
      omega
    have hs : s.handles[j]? = some s.handles[j] := List.getElem?_eq_getElem (by omega)
    obtain ⟨h₁, hs₁, change⟩ := prompt.step.change hs
    obtain rfl := Option.some.inj (hs₁.symm.trans hs')
    exact change.mute (inOrder.consistent j _ hs) (inOrder.mute j _ hs hother)

theorem InOrder.step (inOrder : InOrder s) (prompt : PromptStep s s') : InOrder s' := by
  have inv' := inOrder.toInvariant.step prompt.step
  refine ⟨inv', fun j h' hs' hcurrent' => inOrder.mute_of_step prompt hs' hcurrent', ?_⟩
  rcases prompt.step.deliveries with hsame | ⟨i, h, result, hs, hannounced, hnew⟩
  · rw [hsame]
    exact inOrder.sorted
  · -- Only the current run announces something, and no run was started after it.
    have hcurrent : s.current = some i := by
      by_contra hother
      exact (inOrder.mute i h hs hother).not_announced (inOrder.consistent i h hs) hannounced
    have hlast := (inOrder.current_iff i).1 hcurrent
    have hnodup := inv'.deliveries_nodup
    rw [hnew, List.map_append, List.map_singleton] at hnodup ⊢
    refine List.pairwise_append.2 ⟨inOrder.sorted, List.pairwise_singleton _ _, ?_⟩
    intro j hj k hk
    obtain rfl := List.mem_singleton.1 hk
    have hne : j ≠ k := (List.nodup_append.1 hnodup).2.2 j hj k (List.mem_singleton_self k)
    obtain ⟨⟨j, delivered⟩, hdelivered, rfl⟩ := List.mem_map.1 hj
    obtain ⟨h', hs', -⟩ := (inOrder.mem_deliveries j delivered).1 hdelivered
    have hlt := (List.getElem?_eq_some_iff.1 hs').1
    dsimp only at hne ⊢
    omega

theorem PromptlyReachable.inOrder (reachable : PromptlyReachable s) : InOrder s := by
  induction reachable with
  | refl => exact inOrder_start
  | tail steps prompt ih => exact ih.step prompt

/-- A run that has not reported when another run has been started is never delivered. -/
theorem Invariant.never_delivered (inv : Invariant s) (hs : s.handles[i]? = some h)
    (hnone : h.result = none) (hlater : i + 1 < s.handles.length) (steps : Steps s s') :
    (i, result) ∉ s'.deliveries := by
  have hother : s.current ≠ some i := by
    rw [Ne, inv.current_iff]
    omega
  have hcancelled : h.cancelled = true := by
    rcases inv.settled i h hs hother with hdone | hcancelled
    · rw [RunHandle.isDone, hnone] at hdone
      cases hdone
    · exact hcancelled
  obtain ⟨h', hs', -, hcondemned⟩ := inv.along steps hs
  intro hmem
  obtain ⟨told, htold, hresult⟩ := ((inv.steps steps).mem_deliveries i result).1 hmem
  obtain rfl := Option.some.inj (hs'.symm.trans htold)
  exact (hcondemned (.inl ⟨hcancelled, hnone⟩)).not_told hresult

/-- Whatever the order of steps, a run that has not reported when the next one is started is never
delivered.  If no run is started while a report waits for its delivery, deliveries follow the order
of the starts. -/
theorem deliveries_follow_starts (s : Supervisor) :
    (Reachable s → ∀ (i : Nat) (h : RunHandle), s.handles[i]? = some h → h.result = none →
      i + 1 < s.handles.length → ∀ s', Steps s s' → ∀ result, (i, result) ∉ s'.deliveries) ∧
    (PromptlyReachable s → (s.deliveries.map (·.1)).Pairwise (· < ·)) := by
  constructor
  · intro reachable i h hs hnone hlater s' steps result
    exact reachable.invariant.never_delivered hs hnone hlater steps
  · intro reachable
    exact reachable.inOrder.sorted

def oneMethod : RunResult :=
  ⟨.completed, "Source: a", some (CallGraph.empty.addNode (.ofId "a.py::f")), none, 1, 0⟩

/-- A run is delivered, a second one is started and cancelled by a third one before it has a result. -/
def thirdStarted : Supervisor :=
  let first := (((start.begin .default true).returned 0 oneMethod).finish 0).deliver 0
  (first.begin .default true).begin .default true

/-- The second run comes to a result all the same and reports, and so does the third one. -/
def inTurn : Supervisor :=
  let second := ((thirdStarted.returned 1 oneMethod).finish 1).deliver 1
  ((second.returned 2 oneMethod).finish 2).deliver 2

theorem oneMethod_possible : oneMethod.Possible := by
  intro hstatus
  cases hstatus

/-- The first and the third run are delivered in their turn, and the second one never is. -/
theorem deliveries_in_turn :
    Reachable thirdStarted ∧ PromptlyReachable inTurn ∧
      inTurn.deliveries = [(0, oneMethod), (2, oneMethod)] ∧
      (∀ result, (1, result) ∉ inTurn.deliveries) ∧
      (inTurn.deliveries.map (·.1)).Pairwise (· < ·) := by
  have hstart : PromptStep start (start.begin .default true) :=
    ⟨.begin _ _ _, fun _ _ hnone => absurd hnone List.not_mem_nil⟩
  have hfirst := Relation.ReflTransGen.head hstart (settles_promptly _ 0 oneMethod_possible)
  have hquiet : ((((start.begin .default true).returned 0 oneMethod).finish 0).deliver 0).Quiet := by
    intro h hmem
    obtain rfl : h = ⟨.default, true, false, some oneMethod, .ended⟩ := List.mem_singleton.1 hmem
    rfl
  have hsecond := hfirst.tail ⟨.begin _ .default true, fun _ => hquiet⟩
  have hthird : PromptlyReachable thirdStarted := by
    refine hsecond.tail ⟨.begin _ .default true, fun _ h hmem => ?_⟩
    rcases List.mem_pair.1 hmem with rfl | rfl
    · rfl
    · rfl
  have steps : Relation.ReflTransGen PromptStep thirdStarted inTurn :=
    (settles_promptly _ 1 oneMethod_possible).trans (settles_promptly _ 2 oneMethod_possible)
  have hlast : PromptlyReachable inTurn := hthird.trans steps
  have hreachable : Reachable thirdStarted := steps_of_prompt hthird
  refine ⟨hreachable, hlast, rfl, ?_, (deliveries_follow_starts inTurn).2 hlast⟩
  exact (deliveries_follow_starts thirdStarted).1 hreachable 1
    ⟨.default, true, true, none, .running⟩ rfl rfl (by decide) inTurn (steps_of_prompt steps)

/-- The first of two runs has reported when the second one is started, and its listener is told
after that of the second one. -/
def overtaken : Supervisor :=
  let first := ((start.begin .default true).returned 0 oneMethod).finish 0
  let second := ((first.begin .default true).returned 1 oneMethod).finish 1
  (second.deliver 1).deliver 0

/-- Deliveries may come in another order than the starts: the run that was started first is
delivered last. -/
theorem overtaken_not_in_order :
    Reachable overtaken ∧ overtaken.deliveries = [(1, oneMethod), (0, oneMethod)] ∧
      ¬ (overtaken.deliveries.map (·.1)).Pairwise (· < ·) := by
  have hfirst : Steps start (((start.begin .default true).returned 0 oneMethod).finish 0) :=
    .tail (.tail (.tail .refl (.begin _ _ _)) (.returned _ 0 oneMethod_possible)) (.finish _ 0)
  have hsecond := ((hfirst.tail (.begin _ .default true)).tail
    (.returned _ 1 oneMethod_possible)).tail (.finish _ 1)
  refine ⟨(hsecond.tail (.deliver _ 1)).tail (.deliver _ 0), rfl, ?_⟩
  have hdeliveries : overtaken.deliveries.map (·.1) = [1, 0] := rfl
  rw [hdeliveries]
  decide

end Supervisor

end CallAtlas
