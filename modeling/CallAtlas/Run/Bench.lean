import CallAtlas.Run.Execution
import CallAtlas.Run.Supervisor

/-!
# Runs that meet

A bench carries out runs of one runner one after the other.  While a run waits for its layout engine,
or after it has come to a result, the current run may be cancelled or another run may be started,
which is then carried out first.
-/

namespace CallAtlas

open Settings (Session)

/-- What may happen in the middle of a run. -/
inductive Incident where
  | cancelCurrent
  | start (request : RunRequest)

/-- Runs with everything they need. -/
structure Bench where
  session : Session
  runner : Runner
  engine : Layout.Engine
  /-- Whether calls of the engine are noticed. -/
  observed : Bool
  engineCalls : Nat
  supervisor : Supervisor
  /-- What happens at the next call of the engine. -/
  during : Option Incident
  /-- What happens when the next run has come to a result. -/
  after : Option Incident
  /-- Runs in the order in which they were carried out. -/
  carriedOut : List Nat

namespace Bench

def make (session : Session) (runner : Runner) (engine : Layout.Engine) (observed : Bool) :
    Bench :=
  ⟨session, runner, engine, observed, 0, .start, none, none, []⟩

def supervise (b : Bench) (change : Supervisor → Supervisor) : Bench :=
  { b with supervisor := change b.supervisor }

/-- An incident happens; `start` carries out a run. -/
def meet (start : RunRequest → Bench → Bench) (incident : Option Incident) (b : Bench) : Bench :=
  match incident with
  | none => b
  | some .cancelCurrent => b.supervise Supervisor.cancelCurrent
  | some (.start request) => start request b

/-- The engine is called by a run. -/
def callEngine (start : RunRequest → Bench → Bench) (b : Bench) : Bench :=
  if b.observed then
    meet start b.during { b with engineCalls := b.engineCalls + 1, during := none }
  else b

def tokenOf (b : Bench) (i : Nat) : Token :=
  (b.supervisor.handles[i]?.map RunHandle.token).getD .never

/-- Carries out a run, given how to carry out those that start in the middle of it.  The token of a
run is looked at only through its handle, which an incident may have cancelled. -/
def carryOut (start : RunRequest → Bench → Bench) (request : RunRequest) (b : Bench) : Bench :=
  let i := b.supervisor.handles.length
  let b := b.supervise (·.begin request true)
  let (stage, session) := b.runner.prepare b.session request .never
  let b := { b with session := session }
  let (result, b) := match stage with
    | .ended result => (result, b)
    | .waiting w =>
      let answer := b.engine w.description
      let b := b.callEngine start
      (Runner.complete { w with token := b.tokenOf i } answer, b)
  let b := b.supervise (·.returned i result)
  let b := meet start b.after { b with after := none }
  let b := b.supervise fun s => (s.finish i).deliver i
  { b with carriedOut := b.carriedOut ++ [i] }

/-- Carries out a run; runs nest at most `depth` levels deep. -/
def startRun : Nat → RunRequest → Bench → Bench
  | 0, _, b => b
  | depth + 1, request, b => b.carryOut (startRun depth) request

/-- There are at most two incidents, so runs nest at most three levels deep. -/
def nestingDepth : Nat := 3

/-- Starts a run with the given incidents and waits for it. -/
def start (b : Bench) (request : RunRequest) (during after : Option Incident) : Bench :=
  let b := startRun nestingDepth request { b with during := during, after := after }
  { b with during := none, after := none }

def run (b : Bench) (request : RunRequest) (token : Token) : RunResult × Bench :=
  match b.runner.prepare b.session request token with
  | (.ended result, session) => (result, { b with session := session })
  | (.waiting w, session) =>
    let calls := if b.observed then b.engineCalls + 1 else b.engineCalls
    (Runner.complete w (b.engine w.description),
      { b with session := session, engineCalls := calls })

def setEngine (b : Bench) (engine : Layout.Engine) (observed : Bool) : Bench :=
  { b with engine := engine, observed := observed, engineCalls := 0 }

end Bench

end CallAtlas
