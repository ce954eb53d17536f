import CallAtlas.CallersMap
import CallAtlas.Graph.Basic

/-!
# Graphs of callers maps

The call graph with a node for every method in a callers map and an edge for every pair.
-/

namespace CallAtlas.CallGraph

/-- Adds a method and its callers, which `describe` describes by their IDs. -/
def addEntry (describe : String → Method) (g : CallGraph) (entry : String × List String) :
    CallGraph :=
  entry.2.foldl (fun g caller => g.addEdge (describe caller) (describe entry.1))
    (g.addNode (describe entry.1))

def build (describe : String → Method) (m : CallersMap) : CallGraph :=
  m.foldl (addEntry describe) empty

end CallAtlas.CallGraph
