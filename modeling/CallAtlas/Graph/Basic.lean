import CallAtlas.Graph.Digest
import CallAtlas.Method
import CallAtlas.Text.Sorted

/-!
# Call graphs

Nodes for methods and edges for calls, both in the order in which they were added.  A node is named
by a digest of its method's ID, and an edge by its two nodes.  Besides the list of all edges, every
node keeps the edges that leave it and the edges that enter it, and a register leads from methods to
their nodes.
-/

namespace CallAtlas

/-- A place on the canvas. -/
structure Point where
  x : Float
  y : Float

/-- An edge of a call graph, from the node of the caller to the node of the callee. -/
structure GraphEdge where
  id : String
  source : String
  target : String
deriving DecidableEq

/-- A node of a call graph. -/
structure GraphNode where
  id : String
  method : Method
  /-- Place of the node, once a layout has been applied. -/
  position : Option Point
  /-- The edges that leave the node, one for each edge ID. -/
  leaving : List GraphEdge
  /-- The edges that enter the node, one for each edge ID. -/
  entering : List GraphEdge

structure CallGraph where
  nodes : List GraphNode
  edges : List GraphEdge
  /-- Node IDs of the methods that have a node, by their IDs. -/
  register : List (String × String)

namespace CallGraph

/-- The node ID of the method with an ID.  It is irreducible because no proof looks into the digest. -/
@[irreducible]
def nodeId (methodId : String) : String :=
  String.ofList ('m' :: (Graph.Digest.hex methodId.toUTF8.toList).take 16)

def edgeId (source target : String) : String :=
  source ++ "->" ++ target

def empty : CallGraph := ⟨[], [], []⟩

def isEmpty (g : CallGraph) : Bool := g.nodes.isEmpty

end CallGraph

def GraphEdge.between (source target : String) : GraphEdge :=
  ⟨CallGraph.edgeId source target, source, target⟩

def GraphEdge.joins (e : GraphEdge) (source target : String) : Bool :=
  e.source = source && e.target = target

namespace CallGraph

def node? (g : CallGraph) (id : String) : Option GraphNode :=
  g.nodes.find? fun n => n.id = id

def nodeFor? (g : CallGraph) (methodId : String) : Option GraphNode :=
  (g.register.lookup methodId).bind g.node?

def edge? (g : CallGraph) (source target : String) : Option GraphEdge :=
  g.edges.find? fun e => e.joins source target

def hasEdge (g : CallGraph) (source target : String) : Bool :=
  (g.edge? source target).isSome

/-- The nodes that call a node, in the order of the edges; none if there is no such node. -/
def callers? (g : CallGraph) (id : String) : Option (List GraphNode) :=
  (g.node? id).map fun _ =>
    (g.edges.filter fun e => e.target = id).filterMap fun e => g.node? e.source

/-- The nodes that a node calls, in the order of the edges; none if there is no such node. -/
def callees? (g : CallGraph) (id : String) : Option (List GraphNode) :=
  (g.node? id).map fun _ =>
    (g.edges.filter fun e => e.source = id).filterMap fun e => g.node? e.target

def listEdges (g : CallGraph) : List GraphEdge :=
  g.nodes.flatMap fun n => g.edges.filter fun e => e.source = n.id

/-- Records an edge under its ID, in place of an edge that has the same ID. -/
def record (edges : List GraphEdge) (e : GraphEdge) : List GraphEdge :=
  if edges.any fun other => other.id = e.id then
    edges.map fun other => if other.id = e.id then e else other
  else edges ++ [e]

/-- Records an edge in a node that it leaves or enters. -/
def link (e : GraphEdge) (n : GraphNode) : GraphNode :=
  { n with
    leaving := if n.id = e.source then record n.leaving e else n.leaving
    entering := if n.id = e.target then record n.entering e else n.entering }

def newNode (m : Method) : GraphNode := ⟨nodeId m.id, m, none, [], []⟩

def insertNode (g : CallGraph) (n : GraphNode) : CallGraph :=
  { g with nodes := g.nodes ++ [n], register := g.register ++ [(n.method.id, n.id)] }

def insertEdge (g : CallGraph) (e : GraphEdge) : CallGraph :=
  { g with nodes := g.nodes.map (link e), edges := g.edges ++ [e] }

/-- The node of a method, which is added unless it is there. -/
def withNode (g : CallGraph) (m : Method) : GraphNode × CallGraph :=
  match g.nodeFor? m.id with
  | some n => (n, g)
  | none => (newNode m, g.insertNode (newNode m))

/-- The edge for a call.  It is added, and the nodes of the two methods before it, unless they are
there. -/
def withEdge (g : CallGraph) (source target : Method) : GraphEdge × CallGraph :=
  let (s, g) := g.withNode source
  let (t, g) := g.withNode target
  match g.edge? s.id t.id with
  | some e => (e, g)
  | none => (.between s.id t.id, g.insertEdge (.between s.id t.id))

/-- Adds the node of a method unless it is there. -/
def addNode (g : CallGraph) (m : Method) : CallGraph := (g.withNode m).2

/-- Adds the edge for a call, and the nodes of the two methods, unless they are there. -/
def addEdge (g : CallGraph) (source target : Method) : CallGraph := (g.withEdge source target).2

/-- Moves the nodes that the function knows. -/
def place (g : CallGraph) (position : String → Option Point) : CallGraph :=
  { g with nodes := g.nodes.map fun n =>
      match position n.id with
      | some p => { n with position := some p }
      | none => n }

/-! ## Order -/

def pairLE (a b : String × String) : Bool :=
  if a.1 = b.1 then Text.textLE a.2 b.2 else Text.textLE a.1 b.1

/-- What nodes are sorted by: the name of the method, then the ID of the node. -/
def sortKey (n : GraphNode) : String × String := (n.method.name, n.id)

def sortNodes (nodes : List GraphNode) : List GraphNode :=
  nodes.mergeSort fun a b => pairLE (sortKey a) (sortKey b)

def sortedNodes (g : CallGraph) : List GraphNode :=
  sortNodes g.nodes

def sortedEdges (g : CallGraph) : List GraphEdge :=
  g.listEdges.mergeSort fun a b => pairLE (a.source, a.target) (b.source, b.target)

end CallGraph

end CallAtlas
