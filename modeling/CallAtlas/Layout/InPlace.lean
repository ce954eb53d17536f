import CallAtlas.Layout.Apply

/-!
# Layouts in place

A graph is laid out in place: every node is moved as soon as its turn comes, and whatever has been
moved when the work fails stays moved.
-/

namespace CallAtlas.Layout

/-- What a layout works with: the graph that it changes, the token that it looks at and the session
that it takes settings from. -/
structure Workplace where
  graph : CallGraph
  token : Token
  session : Settings.Session

/-- Work at a workplace, which may fail and keeps all changes made until then. -/
abbrev Work := ExceptT Failure (StateM Workplace)

/-- How a graph is to be laid out.  What is not chosen is taken from the settings. -/
structure Choice where
  engine : Option Engine
  scaleX : Option Float
  scaleY : Option Float
  rankDir : Option String

namespace Choice

/-- The engine that is chosen, or the one that runs the program in the settings. -/
def engineOr (c : Choice) (programs : String → Engine) (settings : Settings.Layout) : Engine :=
  c.engine.getD (programs settings.prog)

def optionsOr (c : Choice) (settings : Settings.Layout) : Options where
  scale := ⟨c.scaleX.getD settings.gridScaleX, c.scaleY.getD settings.gridScaleY⟩
  rankDir := c.rankDir.getD settings.rankDir

end Choice

namespace Work

/-- The result of work, and the workplace after it. -/
def perform {α : Type} (work : Work α) (w : Workplace) : Except Failure α × Workplace :=
  StateT.run (ExceptT.run work) w

/-- The result of a computation whose errors count as failures of the work. -/
def ofExcept {α ε : Type} (failure : ε → Failure) : Except ε α → Work α
  | .ok a => return a
  | .error e => throw (failure e)

def node (id : String) : Work GraphNode := do
  match (← get).graph.node? id with
  | some n => return n
  | none => throw (.unknownNode id)

def move (n : GraphNode) (p : Point) : Work Unit :=
  modify fun w =>
    { w with graph := w.graph.place fun id => if id = n.id then some p else none }

def checkToken : Work Unit := do
  match (← get).token.check with
  | some token => modify fun w => { w with token := token }
  | none => throw .cancelled

def settings : Work Settings.Config := do
  let (loaded, session) := (← get).session.settingsOrDefaults
  modify fun w => { w with session := session }
  ofExcept .settings loaded

/-- The nodes that have been given places. -/
def lookUp (places : List (String × Pair)) : Work (List (GraphNode × Pair)) :=
  places.mapM fun (id, p) => return (← node id, p)

def moveAll (nodes : List (GraphNode × Pair)) : Work Unit :=
  nodes.forM fun (n, p) => move n ⟨p.x, p.y⟩

/-- Writes the places of a layout text onto the graph.  All nodes are looked up before the first one
is moved. -/
def apply (text : String) (scale : Pair) : Work Unit := do
  let plain ← ofExcept .malformed (Plain.parse text)
  let nodes ← lookUp (plain.normalized scale)
  moveAll nodes

/-- Lays out the graph with an engine.  The token is looked at before and after the engine runs. -/
def runEngine (engine : Engine) (options : Options) : Work Unit := do
  let description := describe (← get).graph options.rankDir
  checkToken
  let text ← ofExcept .engine (engine description)
  checkToken
  apply text options.scale

/-- Lays out the graph as chosen.  Nothing at all happens to a graph without nodes. -/
def layOut (programs : String → Engine) (choice : Choice) : Work Unit := do
  if (← get).graph.isEmpty then return
  let layout := (← settings).layout
  runEngine (choice.engineOr programs layout) (choice.optionsOr layout)

end Work

end CallAtlas.Layout
