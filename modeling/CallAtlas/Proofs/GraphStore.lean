import CallAtlas.Graph.Basic
import CallAtlas.Proofs.CallersMap

/-!
# What adding does to a graph

A tidy graph registers exactly its nodes, and its nodes and edges have the IDs that belong to them.
Whatever is added to a tidy graph, the graph stays tidy, and each of the functions that add comes
down to two cases: what is to be added is there, or it is appended.
-/

namespace CallAtlas.CallGraph

def methodIds (g : CallGraph) : List String := g.nodes.map (·.method.id)

/-- The register leads to the nodes of a graph, and all IDs are the ones that belong there. -/
structure Tidy (g : CallGraph) : Prop where
  register_eq : g.register = g.nodes.map fun n => (n.method.id, n.id)
  node_id : ∀ n ∈ g.nodes, n.id = nodeId n.method.id
  edge_eq : ∀ e ∈ g.edges, e = .between e.source e.target

theorem empty_tidy : empty.Tidy where
  register_eq := rfl
  node_id := by simp [empty]
  edge_eq := by simp [empty]

@[simp]
theorem edges_addNode (g : CallGraph) (m : Method) : (g.addNode m).edges = g.edges := by
  unfold addNode withNode
  split <;> rfl

@[simp]
theorem methodIds_insertEdge (g : CallGraph) (e : GraphEdge) :
    (g.insertEdge e).methodIds = g.methodIds := by
  simp [methodIds, insertEdge, link]

theorem node?_id {g : CallGraph} {id : String} {n : GraphNode} (h : g.node? id = some n) :
    n.id = id := by
  simpa using List.find?_some h

theorem mem_of_node? {g : CallGraph} {id : String} {n : GraphNode} (h : g.node? id = some n) :
    n ∈ g.nodes :=
  List.mem_of_find?_eq_some h

theorem isSome_node? {g : CallGraph} {n : GraphNode} (h : n ∈ g.nodes) :
    ∃ n', g.node? n.id = some n' := by
  refine Option.isSome_iff_exists.1 (List.find?_isSome.2 ⟨n, h, ?_⟩)
  simp

theorem edge?_eq_none {g : CallGraph} {s t : String} :
    g.edge? s t = none ↔ ∀ e ∈ g.edges, e.joins s t = false := by
  simp [edge?, List.find?_eq_none]

theorem mem_of_edge? {g : CallGraph} {s t : String} {e : GraphEdge} (h : g.edge? s t = some e) :
    e ∈ g.edges ∧ e.source = s ∧ e.target = t := by
  refine ⟨List.mem_of_find?_eq_some h, ?_⟩
  simpa [GraphEdge.joins] using List.find?_some h

theorem joins_iff {e : GraphEdge} {s t : String} :
    e.joins s t = true ↔ e.source = s ∧ e.target = t := by
  simp [GraphEdge.joins]

theorem lookup_register (nodes : List GraphNode) (id : String) :
    (nodes.map fun n => (n.method.id, n.id)).lookup id =
      (nodes.find? fun n => n.method.id = id).map (·.id) := by
  induction nodes with
  | nil => rfl
  | cons n nodes ih =>
      rw [List.map_cons, List.lookup_cons, List.find?_cons, ih]
      by_cases hid : n.method.id = id
      · simp [hid]
      · have hne : (id == n.method.id) = false := by simpa using Ne.symm hid
        simp [hid, hne]

namespace Tidy

variable {g : CallGraph}

theorem nodeFor?_eq (tidy : g.Tidy) (id : String) :
    g.nodeFor? id = (g.nodes.find? fun n => n.method.id = id).bind fun n => g.node? n.id := by
  rw [nodeFor?, tidy.register_eq, lookup_register, Option.bind_map]
  rfl

/-- The node that is registered for a method has the ID that belongs to the method. -/
theorem nodeFor?_id (tidy : g.Tidy) {id : String} {n : GraphNode} (h : g.nodeFor? id = some n) :
    n.id = nodeId id := by
  rw [tidy.nodeFor?_eq, Option.bind_eq_some_iff] at h
  obtain ⟨first, hfirst, hnode⟩ := h
  have hid : first.method.id = id := by simpa using List.find?_some hfirst
  rw [node?_id hnode, tidy.node_id first (List.mem_of_find?_eq_some hfirst), hid]

theorem nodeFor?_eq_none (tidy : g.Tidy) {id : String} :
    g.nodeFor? id = none ↔ id ∉ g.methodIds := by
  rw [tidy.nodeFor?_eq, methodIds, List.mem_map]
  cases hfirst : g.nodes.find? fun n => n.method.id = id with
  | none =>
      rw [List.find?_eq_none] at hfirst
      simpa using hfirst
  | some first =>
      have hmem := List.mem_of_find?_eq_some hfirst
      obtain ⟨n, hn⟩ := isSome_node? hmem
      simp only [Option.bind_some, hn, reduceCtorEq, false_iff, not_not]
      exact ⟨first, hmem, by simpa using List.find?_some hfirst⟩

/-- The node of a method that has one is left as it is. -/
theorem withNode_of_mem (tidy : g.Tidy) {m : Method} (h : m.id ∈ g.methodIds) :
    ∃ n, g.nodeFor? m.id = some n ∧ g.withNode m = (n, g) := by
  cases hnode : g.nodeFor? m.id with
  | none => exact absurd h (tidy.nodeFor?_eq_none.1 hnode)
  | some n => exact ⟨n, rfl, by rw [withNode, hnode]⟩

/-- The node of any other method is appended. -/
theorem withNode_of_notMem (tidy : g.Tidy) {m : Method} (h : m.id ∉ g.methodIds) :
    g.withNode m = (newNode m, g.insertNode (newNode m)) := by
  rw [withNode, tidy.nodeFor?_eq_none.2 h]

theorem withNode_id (tidy : g.Tidy) (m : Method) : (g.withNode m).1.id = nodeId m.id := by
  by_cases hmem : m.id ∈ g.methodIds
  · obtain ⟨n, hn, heq⟩ := tidy.withNode_of_mem hmem
    rw [heq]
    exact tidy.nodeFor?_id hn
  · rw [tidy.withNode_of_notMem hmem]
    rfl

theorem addNode_of_mem (tidy : g.Tidy) {m : Method} (h : m.id ∈ g.methodIds) :
    g.addNode m = g := by
  obtain ⟨n, -, heq⟩ := tidy.withNode_of_mem h
  rw [addNode, heq]

theorem addNode_of_notMem (tidy : g.Tidy) {m : Method} (h : m.id ∉ g.methodIds) :
    g.addNode m = g.insertNode (newNode m) := by
  rw [addNode, tidy.withNode_of_notMem h]

theorem insertNode (tidy : g.Tidy) (m : Method) : (g.insertNode (newNode m)).Tidy where
  register_eq := by simp [CallGraph.insertNode, tidy.register_eq]
  node_id := by
    intro n hn
    rcases List.mem_append.1 hn with hn | hn
    · exact tidy.node_id n hn
    · obtain rfl := List.mem_singleton.1 hn
      rfl
  edge_eq := tidy.edge_eq

theorem addNode (tidy : g.Tidy) (m : Method) : (g.addNode m).Tidy := by
  by_cases hmem : m.id ∈ g.methodIds
  · rwa [tidy.addNode_of_mem hmem]
  · rw [tidy.addNode_of_notMem hmem]
    exact tidy.insertNode m

theorem methodIds_addNode (tidy : g.Tidy) (m : Method) :
    (g.addNode m).methodIds = CallersMap.insertNew g.methodIds m.id := by
  unfold CallersMap.insertNew
  by_cases hmem : m.id ∈ g.methodIds
  · rw [tidy.addNode_of_mem hmem, if_pos (List.contains_iff_mem.2 hmem)]
  · rw [tidy.addNode_of_notMem hmem, if_neg (mt List.contains_iff_mem.1 hmem)]
    simp [methodIds, CallGraph.insertNode, newNode]

/-- The nodes of both methods come first; then the edge is there, or it is appended. -/
theorem withEdge_eq (tidy : g.Tidy) (source target : Method) :
    g.withEdge source target =
      let g' := (g.addNode source).addNode target
      match g'.edge? (nodeId source.id) (nodeId target.id) with
      | some e => (e, g')
      | none => (.between (nodeId source.id) (nodeId target.id),
          g'.insertEdge (.between (nodeId source.id) (nodeId target.id))) := by
  rw [← tidy.withNode_id source, ← (tidy.addNode source).withNode_id target]
  rfl

theorem insertEdge (tidy : g.Tidy) (s t : String) : (g.insertEdge (.between s t)).Tidy where
  register_eq := by simp [CallGraph.insertEdge, link, tidy.register_eq]
  node_id := by
    intro n hn
    obtain ⟨old, hold, rfl⟩ := List.mem_map.1 hn
    exact tidy.node_id old hold
  edge_eq := by
    intro e he
    rcases List.mem_append.1 he with he | he
    · exact tidy.edge_eq e he
    · obtain rfl := List.mem_singleton.1 he
      rfl

/-- An edge is found exactly if it is there. -/
theorem edge?_eq_some (tidy : g.Tidy) {s t : String} {e : GraphEdge} :
    g.edge? s t = some e ↔ e ∈ g.edges ∧ e = .between s t := by
  constructor
  · intro h
    obtain ⟨hmem, rfl, rfl⟩ := mem_of_edge? h
    exact ⟨hmem, tidy.edge_eq e hmem⟩
  · rintro ⟨hmem, rfl⟩
    cases hedge : g.edge? s t with
    | none =>
        have hfalse := edge?_eq_none.1 hedge _ hmem
        exact absurd (joins_iff.2 ⟨rfl, rfl⟩) (Bool.eq_false_iff.1 hfalse)
    | some other =>
        obtain ⟨hother, hs, ht⟩ := mem_of_edge? hedge
        rw [tidy.edge_eq other hother, hs, ht]

theorem edge?_eq_none_iff (tidy : g.Tidy) {s t : String} :
    g.edge? s t = none ↔ .between s t ∉ g.edges := by
  cases hedge : g.edge? s t with
  | none =>
      refine iff_of_true rfl fun hmem => ?_
      rw [tidy.edge?_eq_some.2 ⟨hmem, rfl⟩] at hedge
      cases hedge
  | some e =>
      obtain ⟨hmem, rfl⟩ := tidy.edge?_eq_some.1 hedge
      exact iff_of_false (Option.some_ne_none _) (not_not_intro hmem)

/-- The edge of a call that has one is left as it is, and so are the nodes. -/
theorem withEdge_of_mem (tidy : g.Tidy) {source target : Method}
    (h : .between (nodeId source.id) (nodeId target.id) ∈ ((g.addNode source).addNode target).edges) :
    g.withEdge source target =
      (.between (nodeId source.id) (nodeId target.id), (g.addNode source).addNode target) := by
  rw [tidy.withEdge_eq]
  dsimp only
  rw [((tidy.addNode source).addNode target).edge?_eq_some.2 ⟨h, rfl⟩]

/-- The edge of any other call is appended. -/
theorem withEdge_of_notMem (tidy : g.Tidy) {source target : Method}
    (h : .between (nodeId source.id) (nodeId target.id) ∉ ((g.addNode source).addNode target).edges) :
    g.withEdge source target = (.between (nodeId source.id) (nodeId target.id),
      ((g.addNode source).addNode target).insertEdge
        (.between (nodeId source.id) (nodeId target.id))) := by
  rw [tidy.withEdge_eq]
  dsimp only
  rw [((tidy.addNode source).addNode target).edge?_eq_none_iff.2 h]

theorem addEdge (tidy : g.Tidy) (source target : Method) : (g.addEdge source target).Tidy := by
  have hnodes := (tidy.addNode source).addNode target
  rw [CallGraph.addEdge]
  by_cases hmem : GraphEdge.between (nodeId source.id) (nodeId target.id) ∈
      ((g.addNode source).addNode target).edges
  · rwa [tidy.withEdge_of_mem hmem]
  · rw [tidy.withEdge_of_notMem hmem]
    exact hnodes.insertEdge _ _

theorem methodIds_addEdge (tidy : g.Tidy) (source target : Method) :
    (g.addEdge source target).methodIds =
      CallersMap.insertNew (CallersMap.insertNew g.methodIds source.id) target.id := by
  rw [← tidy.methodIds_addNode, ← (tidy.addNode source).methodIds_addNode, CallGraph.addEdge,
    tidy.withEdge_eq]
  dsimp only
  split
  · rfl
  · exact methodIds_insertEdge _ _

theorem edges_addEdge (tidy : g.Tidy) (source target : Method) :
    (g.addEdge source target).edges =
      let e := GraphEdge.between (nodeId source.id) (nodeId target.id)
      if e ∈ g.edges then g.edges else g.edges ++ [e] := by
  dsimp only
  split
  · rename_i hmem
    rw [CallGraph.addEdge, tidy.withEdge_of_mem (by simpa using hmem)]
    simp
  · rename_i hmem
    rw [CallGraph.addEdge, tidy.withEdge_of_notMem (by simpa using hmem)]
    simp [CallGraph.insertEdge]

end Tidy

end CallAtlas.CallGraph
