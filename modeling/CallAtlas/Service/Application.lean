import CallAtlas.Run.Execution
import CallAtlas.Service.Validation
import CallAtlas.Text.Search

/-!
# The service

Answers requests for call graphs of one workspace.  Settings and the runner are made at the first
request that needs them and kept until they are reset; as long as they cannot be made, requests are
answered by an explanation.
-/

namespace CallAtlas.Service

open Project (PathFault ProjectError)
open Settings (Session Config LoadError)

def title : String := "callscope"
def version : String := "0.1.0"

structure Address where
  host : String
  port : Int

def Address.ofHost (host : Project.Host) : Except Decimal.IntegerError Address := do
  let port ← Decimal.readInteger ((host.lookupVariable "CALLSCOPE_PORT").getD "8000")
  return ⟨(host.lookupVariable "CALLSCOPE_HOST").getD "127.0.0.1", port⟩

inductive Content where
  | healthy
  | modules (names : List String)
  | graph (result : RunResult)
  | detail (message : String)
  | issues (list : List Issue)
  | text (s : String)

structure Response where
  status : Nat
  content : Content

namespace Response

def notFound : Response := ⟨404, .detail "Not Found"⟩
def methodNotAllowed : Response := ⟨405, .detail "Method Not Allowed"⟩
def redirect : Response := ⟨307, .text ""⟩
def internalError : Response := ⟨500, .text "Internal Server Error"⟩
def unreadable : Response := ⟨400, .detail "There was an error parsing the body"⟩
def unavailable (message : String) : Response := ⟨503, .detail message⟩
def invalid (issues : List Issue) : Response := ⟨422, .issues issues⟩

end Response

/-- A refusal with a status and an explanation. -/
structure Refusal where
  status : Nat
  message : String

/-- The result to answer with, unless the run was superseded or failed. -/
def answerable (result : Option RunResult) : Except Refusal RunResult :=
  match result with
  | none => .error ⟨409, "Run was superseded by a newer run"⟩
  | some r =>
    match r.status with
    | .cancelled => .error ⟨409, "Run was superseded by a newer run"⟩
    | .failed =>
      let message := r.message.getD ""
      .error ⟨500, if message = "" then "Call graph run failed" else message⟩
    | _ => .ok r

/-- Whether the places of all nodes can be written as numbers. -/
def isWritable (g : CallGraph) : Bool :=
  g.nodes.all fun n => n.position.all fun p => p.x.isFinite && p.y.isFinite

def Response.ofResult (result : RunResult) : Response :=
  match answerable (some result) with
  | .error r => ⟨r.status, .detail r.message⟩
  | .ok r => if r.graph.all isWritable then ⟨200, .graph r⟩ else .internalError

/-! ## State -/

/-- A running service. -/
structure Application where
  session : Session
  settings : Option Config
  runner : Option Runner
  /-- The layout engine; without one, the program in the settings is used. -/
  engine : Option Layout.Engine

/-- Whether an error means that the configuration is invalid, which is explained to users. -/
def explains : LoadError → Bool
  | .ini .. => false
  | .path f => f = .nullByte
  | _ => true

/-- Whether an error of a project is explained to users. -/
def explainsProject : ProjectError → Bool
  | .settings e => explains e
  | .path f => f = .nullByte
  | .undecodable _ => true

namespace Application

/-- Starts the service.  An invalid configuration does not keep it from starting. -/
def start (session : Session) (engine : Option Layout.Engine) : Except LoadError Application :=
  match session.settings with
  | (.ok _, s) => .ok ⟨s, none, none, engine⟩
  | (.error e, s) => if explains e then .ok ⟨s, none, none, engine⟩ else .error e

def reset (a : Application) : Application :=
  { a with session := a.session.clear, settings := none, runner := none }

/-- The settings, loaded if they have not been. -/
def loadSettings (a : Application) : Except LoadError Config × Application :=
  match a.settings with
  | some c => (.ok c, a)
  | none =>
    match a.session.settings with
    | (.ok c, s) => (.ok c, { a with session := s, settings := some c })
    | (.error e, s) => (.error e, { a with session := s })

/-- The runner, made if it has not been, or the answer to give instead. -/
def getRunner (a : Application) : Except Response Runner × Application :=
  match a.runner with
  | some r => (.ok r, a)
  | none =>
    match a.loadSettings with
    | (.error e, a) =>
      (.error (if explains e then .unavailable e.message else .internalError), a)
    | (.ok config, a) =>
      match Runner.make a.session config.workspacePath config none with
      | (.ok r, s) => (.ok r, { a with session := s, runner := some r })
      | (.error e, s) =>
        (.error (if explainsProject e then .unavailable e.message else .internalError),
          { a with session := s })

/-! ## Requests -/

inductive Endpoint where
  | health
  | modules
  | graph
  | focus
deriving DecidableEq

def endpoint? (path : String) : Option Endpoint :=
  match path with
  | "/health" => some .health
  | "/api/callgraph/modules" => some .modules
  | "/api/callgraph" => some .graph
  | "/api/callgraph/focus" => some .focus
  | _ => none

def Endpoint.method : Endpoint → String
  | .health => "GET"
  | .modules => "GET"
  | .graph => "POST"
  | .focus => "POST"

def listModules (a : Application) : Response × Application :=
  match a.getRunner with
  | (.error r, a) => (r, a)
  | (.ok runner, a) =>
    match runner.listModules a.session.host with
    | .ok names => (⟨200, .modules names⟩, a)
    | .error _ => (.internalError, a)

def carryOut (a : Application) (runner : Runner) (request : RunRequest) : Response × Application :=
  let engine := a.engine.getD (.failing (.programMissing runner.config.layout.prog))
  let (result, s) := runner.run a.session engine request .never
  (.ofResult result, { a with session := s })

/-- Builds a call graph.  A body that is not JSON is refused at once; otherwise the runner is made
before the body is looked at. -/
def buildGraph (a : Application) (focused : Bool) (body : String) : Response × Application :=
  match if body = "" then .ok Json.null else Json.parse body with
  | .error .malformed => (.invalid [.ofBody .invalidJson], a)
  | .error .integerTooLong => (.unreadable, a)
  | .ok json =>
    match a.getRunner with
    | (.error r, a) => (r, a)
    | (.ok runner, a) =>
      match readRequest focused json with
      | .error issues => (.invalid issues, a)
      | .ok request => a.carryOut runner request

def serve (a : Application) (endpoint : Endpoint) (body : String) : Response × Application :=
  match endpoint with
  | .health => (⟨200, .healthy⟩, a)
  | .modules => a.listModules
  | .graph => a.buildGraph false body
  | .focus => a.buildGraph true body

/-- A path without the slashes at its end, if it has any and is not the top path. -/
def withoutSlash? (path : String) : Option String :=
  if path ≠ "/" ∧ Text.endsWith path "/" then
    some (String.ofList (path.toList.reverse.dropWhile (· == '/')).reverse)
  else none

/-- The path of a request target, without its query. -/
def targetPath (target : String) : String :=
  String.ofList (target.toList.takeWhile fun c => c != '?' && c != '#')

def answer (a : Application) (method target body : String) : Response × Application :=
  let path := targetPath target
  let (response, a) := match endpoint? path with
    | some e => if e.method = method then a.serve e body else (.methodNotAllowed, a)
    | none =>
      match (withoutSlash? path).bind endpoint? with
      | some _ => (.redirect, a)
      | none => (.notFound, a)
  if method = "HEAD" then ({ response with content := .text "" }, a) else (response, a)

end Application

end CallAtlas.Service
