import CallAtlas.Proofs.Outcome
import CallAtlas.Run.Bench

/-!
# Benches and their supervisors

A bench carries out one run after the other, and incidents let runs begin inside others.  However
deep they nest, the supervisor of a bench takes no steps but those of a supervisor, so what holds of
every reachable supervisor holds of it.
-/

namespace CallAtlas

namespace Runner

variable {r : Runner} {s s' : Settings.Session} {request : RunRequest} {token : Token} {result : RunResult}

theorem finished_possible (label : String) (m : CallersMap) (g : CallGraph) :
    (RunResult.finished label m g).Possible := by
  intro hstatus
  unfold RunResult.finished at hstatus
  dsimp only at hstatus
  split at hstatus
  · cases hstatus
  · cases hstatus

/-- A run that its engine has answered comes to a possible result, even if its token was cancelled in
the meantime. -/
theorem complete_possible (w : Waiting) (answer : Except Layout.EngineError String) :
    (complete w answer).Possible := by
  unfold complete
  split
  · rename_i f _ _
    exact (RunFailure.layout f).fault.result_possible w.label
  · unfold conclude
    split
    · exact Fault.cancelled.result_possible w.label
    · exact finished_possible w.label w.callers _

theorem possible_of_ended (h : r.prepare s request token = (.ended result, s')) :
    result.Possible := by
  have hrun : (r.run s .row request token).1 = result := by rw [run, h]
  exact hrun ▸ r.run_possible s .row request token

end Runner

namespace Bench

open Supervisor (Step Steps Reachable)

variable {b b' : Bench} {start : RunRequest → Bench → Bench}

/-- Carrying out runs in a certain way takes steps of a supervisor only. -/
def Supervised (start : RunRequest → Bench → Bench) : Prop :=
  ∀ request b, Steps b.supervisor (start request b).supervisor

theorem cancelCurrent_steps (s : Supervisor) : Steps s s.cancelCurrent := by
  unfold Supervisor.cancelCurrent
  split
  · exact .single (.cancel s _)
  · exact .refl

theorem meet_steps (supervised : Supervised start) (incident : Option Incident) (b : Bench) :
    Steps b.supervisor (meet start incident b).supervisor := by
  cases incident with
  | none => exact .refl
  | some incident =>
      cases incident with
      | cancelCurrent => exact cancelCurrent_steps b.supervisor
      | start request => exact supervised request b

theorem callEngine_steps (supervised : Supervised start) (b : Bench) :
    Steps b.supervisor (callEngine start b).supervisor := by
  unfold callEngine
  split
  · exact meet_steps supervised b.during { b with engineCalls := b.engineCalls + 1, during := none }
  · exact .refl

/-- A run that has come to a result reports it and is delivered, whatever happens in between. -/
theorem settle_steps (supervised : Supervised start) (b : Bench) (i : Nat) {result : RunResult}
    (possible : result.Possible) :
    Steps b.supervisor
      (((meet start b.after { b.supervise (·.returned i result) with after := none }).supervise
        fun s => (s.finish i).deliver i).supervisor) := by
  have hmeet := meet_steps supervised b.after { b.supervise (·.returned i result) with after := none }
  exact .tail (.tail (.head (.returned b.supervisor i possible) hmeet) (.finish _ i)) (.deliver _ i)

/-- A run is carried out in steps if those that begin inside it are. -/
theorem carryOut_steps (supervised : Supervised start) : Supervised (carryOut start) := by
  intro request b
  have hbegin : Step b.supervisor (b.supervise (·.begin request true)).supervisor :=
    .begin b.supervisor request true
  unfold carryOut
  dsimp only
  generalize b.supervise (·.begin request true) = b' at hbegin ⊢
  cases hprepare : b'.runner.prepare b'.session request .never with
  | mk stage session =>
      cases stage with
      | ended result =>
          exact .head hbegin (settle_steps supervised { b' with session := session } _
            (Runner.possible_of_ended hprepare))
      | waiting w =>
          have hengine := callEngine_steps supervised { b' with session := session }
          exact .head hbegin
            (hengine.trans (settle_steps supervised _ _ (Runner.complete_possible _ _)))

theorem startRun_steps (depth : Nat) : Supervised (startRun depth) := by
  induction depth with
  | zero => exact fun _ _ => .refl
  | succ depth ih => exact carryOut_steps ih

inductive Act : Bench → Bench → Prop where
  | start (b : Bench) (request : RunRequest) (during after : Option Incident) :
      Act b (b.start request during after)
  | run (b : Bench) (request : RunRequest) (token : Token) : Act b (b.run request token).2
  | cancelCurrent (b : Bench) : Act b (b.supervise Supervisor.cancelCurrent)
  | setEngine (b : Bench) (engine : Layout.Engine) (observed : Bool) :
      Act b (b.setEngine engine observed)
  | setSession (b : Bench) (session : Settings.Session) : Act b { b with session := session }

theorem Act.steps (act : Act b b') : Steps b.supervisor b'.supervisor := by
  cases act with
  | start request during after =>
      exact startRun_steps nestingDepth request { b with during := during, after := after }
  | run request token =>
      unfold Bench.run
      split <;> exact .refl
  | cancelCurrent => exact cancelCurrent_steps b.supervisor
  | setEngine engine observed => exact .refl
  | setSession session => exact .refl

/-- Whatever is done with a bench, its supervisor stays reachable. -/
theorem supervisor_reachable {session : Settings.Session} {runner : Runner} {engine : Layout.Engine}
    {observed : Bool} (acts : Relation.ReflTransGen Act (make session runner engine observed) b) :
    Reachable b.supervisor := by
  induction acts with
  | refl => exact .refl
  | tail acts act ih => exact ih.trans act.steps

end Bench

end CallAtlas
