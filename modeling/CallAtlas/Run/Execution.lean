import CallAtlas.Graph.Build
import CallAtlas.Layout.Apply
import CallAtlas.Resolver.Index
import CallAtlas.Run.Basic

/-!
# Running an analysis

A run finds its scope, gathers a callers map, builds the graph and lays it out, and looks at its
token between these steps.  Nothing it meets makes it fail otherwise than by its outcome.  Since the
layout engine is the only part of the world that a run waits for, a run is cut there: what comes
before the engine, and what comes after it.
-/

namespace CallAtlas

open Project (Host FileFilter FilterOptions ProjectError)
open Settings (Session Config)

/-- Why a run does not come to its end. -/
inductive RunFailure where
  | noActiveScope (label : String)
  | interrupted (i : Interrupt)
  | unknownMethod (id : String)
  | project (e : ProjectError)
  | layout (f : Layout.Failure)

def RunFailure.fault : RunFailure → Fault
  | .noActiveScope selection => .noActiveScope ("No source roots for " ++ selection)
  | .interrupted .cancelled => .cancelled
  | .interrupted (.failed e) => e.fault
  | .unknownMethod id => .unknownMethod ("Unknown method: " ++ id)
  | .project e => .other e.message
  | .layout (.settings e) => .other e.message
  | .layout .cancelled => .cancelled
  | .layout (.engine e) => e.fault
  | .layout (.malformed e) => .malformedLayout e.message
  | .layout (.unknownNode id) => .other (Layout.unknownNodeMessage id)

def Fault.result (label : String) : Fault → RunResult
  | .cancelled => .cancelled label
  | .noActiveScope message => .nothing label message
  | .unknownMethod message => .failed label message
  | .malformedLayout message => .failed label ("Could not read the layout output: " ++ message)
  | .other message => .failed label ("Call graph run failed: " ++ message)

def RunFailure.result (label : String) (f : RunFailure) : RunResult := f.fault.result label

/-- What the runs over one project share. -/
structure Runner where
  /-- Path text of the project. -/
  project : String
  config : Config
  filter : FileFilter
  /-- Resolver of all runs; without one, every run reads the project anew. -/
  resolver : Option FiniteResolver
  /-- How the workers of a run take up lookups. -/
  schedule : Schedule

namespace Runner

/-- The runner of a project.  Its filter takes the limit on file sizes and the ignore file from the
given settings and everything else from those of the session. -/
def make (s : Session) (project : String) (config : Config) (resolver : Option FiniteResolver) :
    Except ProjectError Runner × Session :=
  match s.settingsOrDefaults with
  | (.error e, s) => (.error (.settings e), s)
  | (.ok shared, s) =>
    let options : FilterOptions := {
      maxFileSizeKb := some config.files.maxFileSizeKb
      extraExcludes := []
      ignorePath := some (Project.Path.join project config.paths.ignoreFile)
      extensions := none }
    match FileFilter.make s.host shared project options with
    | .error e => (.error e, s)
    | .ok filter => (.ok ⟨project, config, filter, resolver, .given⟩, s)

def ofSession (s : Session) (project : String) (resolver : Option FiniteResolver) :
    Except ProjectError Runner × Session :=
  match s.settingsOrDefaults with
  | (.error e, s) => (.error (.settings e), s)
  | (.ok config, s) => make s project config resolver

def listModules (r : Runner) (host : Host) : Except Project.PathFault (List String) := do
  return (← Project.discoverModules host r.filter).map (·.name)

def runResolver (r : Runner) (host : Host) : Except QueryError FiniteResolver :=
  match r.resolver with
  | some resolver => .ok resolver
  | none => (ProjectIndex.build host r.filter).map fun index =>
      index.resolver r.config.analysis.maxNestingDepth

def describe (resolver : Resolver) (id : String) : Method :=
  match resolver.method? id with
  | .ok (some m) => { m with id := id }
  | _ => Method.ofId id

def gatherMap (r : Runner) (resolver : FiniteResolver) (scope : Project.SearchScope)
    (request : RunRequest) (w : Walk) : Except RunFailure CallersMap × Walk :=
  let pool : Pool := ⟨r.config.analysis.maxWorkers, r.schedule⟩
  let interruptible (result : Except Interrupt CallersMap × Walk) :
      Except RunFailure CallersMap × Walk :=
    match result with
    | (.ok m, w) => (.ok m, w)
    | (.error i, w) => (.error (.interrupted i), w)
  match request.focus with
  | none => interruptible (Traversal.scopeMap resolver.toResolver scope pool w)
  | some id =>
    match resolver.method? id with
    | .error e => (.error (.interrupted (.failed e)), w)
    | .ok none => (.error (.unknownMethod id), w)
    | .ok (some m) =>
      interruptible (resolver.focusMap scope request.direction pool m.id w)

/-- A callers map and the resolver it comes from. -/
structure Gathered where
  callers : CallersMap
  resolver : FiniteResolver

def gather (r : Runner) (host : Host) (request : RunRequest) (w : Walk) :
    Except RunFailure Gathered × Walk :=
  match Project.searchScope host r.project (.ok r.filter) request.selection with
  | .error e => (.error (.project e), w)
  | .ok scope =>
    if scope.isEmpty then (.error (.noActiveScope request.selection.label), w)
    else
      match w.check with
      | (.error i, w) => (.error (.interrupted i), w)
      | (.ok (), w) =>
        match r.runResolver host with
        | .error e => (.error (.interrupted (.failed e)), w)
        | .ok resolver =>
          match r.gatherMap resolver scope request w with
          | (.error f, w) => (.error f, w)
          | (.ok m, w) => (.ok ⟨m, resolver⟩, w)

/-- A run that waits for its layout engine. -/
structure Waiting where
  label : String
  callers : CallersMap
  graph : CallGraph
  description : Description
  scale : Layout.Pair
  token : Token

/-- How far a run comes without its layout engine. -/
inductive Stage where
  | ended (result : RunResult)
  | waiting (w : Waiting)

/-- The end of a run whose graph is complete, after a last look at the token. -/
def conclude (label : String) (callers : CallersMap) (graph : CallGraph) (token : Token) :
    RunResult :=
  match token.check with
  | none => .cancelled label
  | some _ => .finished label callers graph

/-- The layout of a graph up to the point where the engine is needed. -/
def prepareLayout (r : Runner) (s : Session) (label : String) (callers : CallersMap)
    (graph : CallGraph) (token : Token) : Stage × Session :=
  if graph.isEmpty then (.ended (conclude label callers graph token), s)
  else
    match s.settingsOrDefaults with
    | (.error e, s) => (.ended ((RunFailure.layout (.settings e)).result label), s)
    | (.ok _, s) =>
      match token.check with
      | none => (.ended (.cancelled label), s)
      | some token =>
        let layout := r.config.layout
        (.waiting {
          label := label
          callers := callers
          graph := graph
          description := Layout.describe graph layout.rankDir
          scale := ⟨layout.gridScaleX, layout.gridScaleY⟩
          token := token }, s)

/-- Everything that a run does before its layout engine. -/
def prepare (r : Runner) (s : Session) (request : RunRequest) (token : Token) : Stage × Session :=
  let label := request.sourceLabel
  match r.gather s.host request (Walk.start token) with
  | (.error f, _) => (.ended (f.result label), s)
  | (.ok gathered, w) =>
    match w.token.check with
    | none => (.ended (.cancelled label), s)
    | some token =>
      let graph := CallGraph.build (describe gathered.resolver.toResolver) gathered.callers
      match token.check with
      | none => (.ended (.cancelled label), s)
      | some token => r.prepareLayout s label gathered.callers graph token

/-- Everything that a run does after its layout engine. -/
def complete (w : Waiting) (answer : Except Layout.EngineError String) : RunResult :=
  match Layout.finish w.graph w.scale w.token answer with
  | (.error f, _) => (RunFailure.layout f).result w.label
  | (.ok graph, token) => conclude w.label w.callers graph token

def run (r : Runner) (s : Session) (engine : Layout.Engine) (request : RunRequest)
    (token : Token) : RunResult × Session :=
  match r.prepare s request token with
  | (.ended result, s) => (result, s)
  | (.waiting w, s) => (complete w (engine w.description), s)

end Runner

end CallAtlas
