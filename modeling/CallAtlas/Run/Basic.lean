import CallAtlas.Graph.Basic
import CallAtlas.Project.Roots
import CallAtlas.Traversal.Focus

/-!
# Runs

What an analysis is asked for and how it ends.
-/

namespace CallAtlas

open Project (Selection)

/-- What to analyse: a whole selection, or what is around one method of it. -/
structure RunRequest where
  selection : Selection
  focus : Option String
  direction : Direction
deriving DecidableEq

def RunRequest.default : RunRequest := ⟨.wholeProject, none, .both⟩

/-- What users read about the source of a graph. -/
def RunRequest.sourceLabel (r : RunRequest) : String :=
  match r.focus with
  | some id => "Source: " ++ r.direction.label ++ " of " ++ id ++ " (" ++ r.selection.label ++ ")"
  | none => "Source: " ++ r.selection.label

inductive RunStatus where
  | completed
  | empty
  | cancelled
  | failed
deriving DecidableEq

def RunStatus.text : RunStatus → String
  | .completed => "completed"
  | .empty => "empty"
  | .cancelled => "cancelled"
  | .failed => "failed"

def RunStatus.ofText? (s : String) : Option RunStatus :=
  [.completed, .empty, .cancelled, .failed].find? fun (status : RunStatus) => status.text = s

/-- Outcome of a run. -/
structure RunResult where
  status : RunStatus
  sourceLabel : String
  graph : Option CallGraph
  message : Option String
  methodCount : Nat
  callerCount : Nat

namespace RunResult

def cancelled (label : String) : RunResult := ⟨.cancelled, label, none, none, 0, 0⟩

def failed (label message : String) : RunResult := ⟨.failed, label, none, some message, 0, 0⟩

def nothing (label message : String) : RunResult :=
  ⟨.empty, label, some .empty, some message, 0, 0⟩

def finished (label : String) (callers : CallersMap) (graph : CallGraph) : RunResult :=
  { status := if graph.isEmpty then .empty else .completed
    sourceLabel := label
    graph := some graph
    message := none
    methodCount := callers.length
    callerCount := callers.count }

end RunResult

end CallAtlas
