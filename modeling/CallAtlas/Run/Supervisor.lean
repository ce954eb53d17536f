import CallAtlas.Run.Basic

/-!
# Supervision

At most one run at a time is current.  Starting a run cancels the one before it, and a run whose
token is cancelled ends without a result, even if it had come to its end before it could report.
-/

namespace CallAtlas

/-- How far the worker of a run has come. -/
inductive Worker where
  /-- The analysis is going on. -/
  | running
  /-- The analysis has come to a result, which has not been reported. -/
  | returned (result : RunResult)
  /-- The result has been reported, and the listener has not been told. -/
  | reported (result : RunResult)
  | ended

/-- A run that has been started. -/
structure RunHandle where
  request : RunRequest
  /-- Whether someone listens for the result. -/
  listened : Bool
  /-- Whether the token of the run is cancelled. -/
  cancelled : Bool
  /-- What the run reported. -/
  result : Option RunResult
  worker : Worker

namespace RunHandle

def start (request : RunRequest) (listened : Bool) : RunHandle :=
  ⟨request, listened, false, none, .running⟩

def isDone (h : RunHandle) : Bool := h.result.isSome

def cancel (h : RunHandle) : RunHandle := { h with cancelled := true }

/-- Cancels a run that has not reported. -/
def supersede (h : RunHandle) : RunHandle := if h.isDone then h else h.cancel

def token (h : RunHandle) : Token := if h.cancelled then Token.never.cancel else .never

/-- What a run that came to a result reports: nothing of it if its token is cancelled. -/
def outcome (h : RunHandle) (result : RunResult) : RunResult :=
  if h.cancelled && result.status != .cancelled then .cancelled result.sourceLabel else result

/-- The analysis comes to a result. -/
def returned (h : RunHandle) (result : RunResult) : RunHandle :=
  match h.worker with
  | .running => { h with worker := .returned result }
  | _ => h

def finish (h : RunHandle) : RunHandle :=
  match h.worker with
  | .returned result =>
    { h with result := some (h.outcome result), worker := .reported (h.outcome result) }
  | _ => h

/-- What the worker tells its listener: nothing of a run that was cancelled. -/
def announced (h : RunHandle) : Option RunResult :=
  match h.worker with
  | .reported result => if h.listened && result.status != .cancelled then some result else none
  | _ => none

/-- The worker has told its listener. -/
def close (h : RunHandle) : RunHandle :=
  match h.worker with
  | .reported _ => { h with worker := .ended }
  | _ => h

end RunHandle

/-- All runs in the order in which they were started, the current one among them, and the results
that were delivered. -/
structure Supervisor where
  handles : List RunHandle
  current : Option Nat
  deliveries : List (Nat × RunResult)

namespace Supervisor

def start : Supervisor := ⟨[], none, []⟩

def update (s : Supervisor) (i : Nat) (change : RunHandle → RunHandle) : Supervisor :=
  { s with handles := s.handles.modify i change }

def cancel (s : Supervisor) (i : Nat) : Supervisor := s.update i RunHandle.cancel

/-- Cancels the current run unless it is done. -/
def supersede (s : Supervisor) : Supervisor :=
  match s.current with
  | none => s
  | some i => s.update i RunHandle.supersede

/-- Starts a run, which becomes the current one. -/
def begin (s : Supervisor) (request : RunRequest) (listened : Bool) : Supervisor :=
  let s := s.supersede
  { s with
    handles := s.handles ++ [.start request listened]
    current := some s.handles.length }

/-- A run comes to a result. -/
def returned (s : Supervisor) (i : Nat) (result : RunResult) : Supervisor :=
  s.update i (·.returned result)

def finish (s : Supervisor) (i : Nat) : Supervisor := s.update i RunHandle.finish

/-- The result of a run is delivered to its listener, unless the run was cancelled. -/
def deliver (s : Supervisor) (i : Nat) : Supervisor :=
  let announced := (s.handles[i]?.bind RunHandle.announced).toList.map fun r => (i, r)
  { s.update i RunHandle.close with deliveries := s.deliveries ++ announced }

def cancelCurrent (s : Supervisor) : Supervisor :=
  match s.current with
  | some i => s.cancel i
  | none => s

end Supervisor

end CallAtlas
