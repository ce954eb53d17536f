import CallAtlas.Cancellation
import CallAtlas.Fault
import CallAtlas.Graph.Description
import CallAtlas.Layout.Plain
import CallAtlas.Settings.Load

/-!
# Applying layouts

A layout engine turns the description of a graph into a layout text, and the places in the text are
written onto the graph.  Nothing is written unless the whole text can be read and every node it names
is in the graph.
-/

namespace CallAtlas.Layout

inductive EngineError where
  | raised (f : Fault)
  | programMissing (prog : String)
deriving DecidableEq

def EngineError.fault : EngineError → Fault
  | .raised f => f
  | .programMissing prog =>
    .other ("Graphviz '" ++ prog ++ "' failed: [Errno 2] \"" ++ prog ++ "\" not found in path.")

/-- A layout engine. -/
abbrev Engine := Description → Except EngineError String

namespace Engine

/-- The engine that puts all nodes into one row, at 1, 2, 3 and so on in the order of the
description. -/
def row : Engine := fun d =>
  let lines := d.nodes.mapIdx fun i (id, _) =>
    "node " ++ id ++ " " ++ toString (i + 1) ++ " 1 0.5 0.5 " ++ id ++ " solid ellipse\n"
  .ok ("graph 1 " ++ toString (d.nodes.length + 1) ++ " 2\n" ++ String.join lines ++ "stop\n")

def fixed (text : String) : Engine := fun _ => .ok text

def failing (e : EngineError) : Engine := fun _ => .error e

end Engine

/-- Why a graph is not laid out. -/
inductive Failure where
  | settings (e : Settings.LoadError)
  | cancelled
  | engine (e : EngineError)
  | malformed (e : Malformed)
  | unknownNode (id : String)

def unknownNodeMessage (id : String) : String := Text.quoted id

/-- Writes the places of a layout text onto a graph. -/
def apply (g : CallGraph) (text : String) (scale : Pair) : Except Failure CallGraph :=
  match Plain.parse text with
  | .error e => .error (.malformed e)
  | .ok plain =>
    let places := plain.normalized scale
    match places.find? fun p => (g.node? p.1).isNone with
    | some p => .error (.unknownNode p.1)
    | none => .ok (g.place fun id => (places.lookup id).map fun p => ⟨p.x, p.y⟩)

structure Options where
  scale : Pair
  rankDir : String

def describe (g : CallGraph) (rankDir : String) : Description :=
  .ofGraph g (Text.upper rankDir)

/-- Lays out a graph whose engine has answered, after another look at the token. -/
def finish (g : CallGraph) (scale : Pair) (token : Token) (answer : Except EngineError String) :
    Except Failure CallGraph × Token :=
  match answer with
  | .error e => (.error (.engine e), token)
  | .ok text =>
    match token.check with
    | none => (.error .cancelled, token)
    | some token => (apply g text scale, token)

/-- Lays out a graph.  The token is looked at before and after the engine runs; nothing at all
happens for a graph without nodes. -/
def layOut (g : CallGraph) (engine : Engine) (options : Options) (token : Token) :
    Except Failure CallGraph × Token :=
  if g.isEmpty then (.ok g, token)
  else
    match token.check with
    | none => (.error .cancelled, token)
    | some token => finish g options.scale token (engine (describe g options.rankDir))

end CallAtlas.Layout
