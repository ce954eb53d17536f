import CallAtlas.Graph.Build
import CallAtlas.Proofs.GraphStore

/-!
# The graph of a callers map

The graph that is built from a callers map has one node for every method in the map and one edge for
every pair of a method and a caller, as far as different methods have different node IDs.
-/

namespace CallAtlas.CallGraph

theorem mem_edges_addEdge {g : CallGraph} (tidy : g.Tidy) {source target : Method}
    {e : GraphEdge} :
    e ∈ (g.addEdge source target).edges ↔
      e ∈ g.edges ∨ e = .between (nodeId source.id) (nodeId target.id) := by
  rw [tidy.edges_addEdge]
  dsimp only
  split
  · rename_i hmem
    constructor
    · exact Or.inl
    · rintro (he | rfl)
      · exact he
      · exact hmem
  · simp

theorem edges_nodup_addEdge {g : CallGraph} (tidy : g.Tidy) (source target : Method)
    (h : g.edges.Nodup) : (g.addEdge source target).edges.Nodup := by
  rw [tidy.edges_addEdge]
  dsimp only
  split
  · exact h
  · rename_i hmem
    exact h.append (List.nodup_singleton _) (by simpa using hmem)

/-- What a graph has nodes and edges for, each of them once. -/
structure Holds (g : CallGraph) (methods : String → Prop) (calls : GraphEdge → Prop) :
    Prop where
  tidy : g.Tidy
  mem_methodIds : ∀ id, id ∈ g.methodIds ↔ methods id
  methodIds_nodup : g.methodIds.Nodup
  mem_edges : ∀ e, e ∈ g.edges ↔ calls e
  edges_nodup : g.edges.Nodup

theorem Holds.congr {g : CallGraph} {methods methods' : String → Prop}
    {calls calls' : GraphEdge → Prop} (h : g.Holds methods calls)
    (hmethods : ∀ id, methods id ↔ methods' id) (hcalls : ∀ e, calls e ↔ calls' e) :
    g.Holds methods' calls' where
  tidy := h.tidy
  mem_methodIds id := (h.mem_methodIds id).trans (hmethods id)
  methodIds_nodup := h.methodIds_nodup
  mem_edges e := (h.mem_edges e).trans (hcalls e)
  edges_nodup := h.edges_nodup

theorem empty_holds : empty.Holds (fun _ => False) (fun _ => False) where
  tidy := empty_tidy
  mem_methodIds := by simp [empty, methodIds]
  methodIds_nodup := List.nodup_nil
  mem_edges := by simp [empty]
  edges_nodup := List.nodup_nil

def edgeOf (key caller : String) : GraphEdge := .between (nodeId caller) (nodeId key)

section Building

variable {describe : String → Method} (described : ∀ id, (describe id).id = id)

include described

theorem addNode_holds {g : CallGraph} {methods : String → Prop} {calls : GraphEdge → Prop}
    (h : g.Holds methods calls) (id : String) :
    (g.addNode (describe id)).Holds (fun x => methods x ∨ x = id) calls where
  tidy := h.tidy.addNode (describe id)
  mem_methodIds x := by
    rw [h.tidy.methodIds_addNode, CallersMap.mem_insertNew, h.mem_methodIds, described]
  methodIds_nodup := by
    rw [h.tidy.methodIds_addNode]
    exact CallersMap.insertNew_nodup _ h.methodIds_nodup
  mem_edges e := by
    rw [edges_addNode, h.mem_edges]
  edges_nodup := by
    rw [edges_addNode]
    exact h.edges_nodup

theorem addEdge_holds {g : CallGraph} {methods : String → Prop} {calls : GraphEdge → Prop}
    (h : g.Holds methods calls) (key caller : String) :
    (g.addEdge (describe caller) (describe key)).Holds
      (fun x => methods x ∨ x = caller ∨ x = key)
      (fun e => calls e ∨ e = edgeOf key caller) where
  tidy := h.tidy.addEdge (describe caller) (describe key)
  mem_methodIds x := by
    rw [h.tidy.methodIds_addEdge, CallersMap.mem_insertNew, CallersMap.mem_insertNew, h.mem_methodIds,
      described, described, or_assoc]
  methodIds_nodup := by
    rw [h.tidy.methodIds_addEdge]
    exact CallersMap.insertNew_nodup _ (CallersMap.insertNew_nodup _ h.methodIds_nodup)
  mem_edges e := by
    rw [mem_edges_addEdge h.tidy, h.mem_edges, described, described]
    rfl
  edges_nodup := edges_nodup_addEdge h.tidy _ _ h.edges_nodup

theorem addEdges_holds {g : CallGraph} {methods : String → Prop} {calls : GraphEdge → Prop}
    (h : g.Holds methods calls) {key : String} (hkey : methods key) (callers : List String) :
    (callers.foldl (fun g caller => g.addEdge (describe caller) (describe key)) g).Holds
      (fun x => methods x ∨ x ∈ callers) (fun e => calls e ∨ ∃ c ∈ callers, e = edgeOf key c) := by
  induction callers generalizing g methods calls with
  | nil => exact h.congr (by simp) (by simp)
  | cons caller callers ih =>
      refine (ih (addEdge_holds described h key caller) (.inl hkey)).congr ?_ ?_
      · intro x
        rw [List.mem_cons]
        constructor
        · rintro ((hx | rfl | rfl) | hx)
          · exact .inl hx
          · exact .inr (.inl rfl)
          · exact .inl hkey
          · exact .inr (.inr hx)
        · rintro (hx | rfl | hx)
          · exact .inl (.inl hx)
          · exact .inl (.inr (.inl rfl))
          · exact .inr hx
      · intro e
        simp [or_assoc]

theorem addEntry_holds {g : CallGraph} {methods : String → Prop} {calls : GraphEdge → Prop}
    (h : g.Holds methods calls) (entry : String × List String) :
    (addEntry describe g entry).Holds (fun x => methods x ∨ x = entry.1 ∨ x ∈ entry.2)
      (fun e => calls e ∨ ∃ c ∈ entry.2, e = edgeOf entry.1 c) := by
  have hnode := addNode_holds described h entry.1
  exact (addEdges_holds described hnode (.inr rfl) entry.2).congr (fun _ => or_assoc) fun _ => .rfl

/-- The graph of a map has a node for every key and every caller, and an edge for every pair. -/
theorem build_holds (m : CallersMap) :
    (build describe m).Holds m.Mentions
      (fun e => ∃ entry ∈ m, ∃ c ∈ entry.2, e = edgeOf entry.1 c) := by
  suffices hfold : ∀ (g : CallGraph) (methods : String → Prop) (calls : GraphEdge → Prop),
      g.Holds methods calls → (m.foldl (addEntry describe) g).Holds
        (fun x => methods x ∨ ∃ entry ∈ m, x = entry.1 ∨ x ∈ entry.2)
        (fun e => calls e ∨ ∃ entry ∈ m, ∃ c ∈ entry.2, e = edgeOf entry.1 c) by
    exact (hfold empty _ _ empty_holds).congr (by simp [CallersMap.Mentions]) (by simp)
  induction m with
  | nil =>
      intro g methods calls h
      exact h.congr (by simp) (by simp)
  | cons entry rest ih =>
      intro g methods calls h
      refine (ih _ _ _ (addEntry_holds described h entry)).congr ?_ ?_
      · intro x
        simp only [List.mem_cons, exists_eq_or_imp, or_assoc]
      · intro e
        simp only [List.mem_cons, exists_eq_or_imp, or_assoc]

end Building

def edgesOf (m : CallersMap) : List GraphEdge :=
  m.flatMap fun entry => entry.2.map (edgeOf entry.1)

theorem length_edgesOf (m : CallersMap) : (edgesOf m).length = m.count := by
  induction m with
  | nil => rfl
  | cons entry rest ih =>
      rw [edgesOf, List.flatMap_cons, List.length_append, List.length_map, ← edgesOf, ih,
        CallersMap.count]

/-- Different methods among those of a map have different node IDs. -/
def Distinct (m : CallersMap) : Prop :=
  ∀ a b, m.Mentions a → m.Mentions b → nodeId a = nodeId b → a = b

theorem distinct_of_pair {m : CallersMap} {a b : String} (hne : nodeId a ≠ nodeId b)
    (h : ∀ id, m.Mentions id → id = a ∨ id = b) : Distinct m := by
  intro x y hx hy heq
  rcases h x hx with rfl | rfl
  · rcases h y hy with rfl | rfl
    · rfl
    · exact absurd heq hne
  · rcases h y hy with rfl | rfl
    · exact absurd heq.symm hne
    · rfl

theorem edgesOf_nodup {m : CallersMap} (wellFormed : m.WellFormed) (distinct : Distinct m) :
    (edgesOf m).Nodup := by
  refine List.nodup_flatMap.2 ⟨?_, ?_⟩
  · intro entry hentry
    refine (wellFormed.callers_nodup entry hentry).map_on ?_
    intro a ha b hb heq
    exact distinct a b ⟨entry, hentry, .inr ha⟩ ⟨entry, hentry, .inr hb⟩
      (congrArg GraphEdge.source heq)
  · refine (List.pairwise_map.1 wellFormed.keys_nodup).imp_of_mem ?_
    intro first second hfirst hsecond hne e hmem hmem'
    obtain ⟨a, -, rfl⟩ := List.mem_map.1 hmem
    obtain ⟨b, -, heq⟩ := List.mem_map.1 hmem'
    exact hne (distinct _ _ ⟨first, hfirst, .inl rfl⟩ ⟨second, hsecond, .inl rfl⟩
      (congrArg GraphEdge.target heq).symm)

/-- The graph of a map has the edges for the pairs of the map, each of them once. -/
theorem edges_build_perm {describe : String → Method} (described : ∀ id, (describe id).id = id)
    {m : CallersMap} (wellFormed : m.WellFormed) (distinct : Distinct m) :
    (build describe m).edges.Perm (edgesOf m) := by
  have hholds := build_holds described m
  refine (List.perm_ext_iff_of_nodup hholds.edges_nodup (edgesOf_nodup wellFormed distinct)).2 ?_
  intro e
  rw [hholds.mem_edges]
  simp [edgesOf, eq_comm]

/-- The graph of a map has as many edges as the map has pairs. -/
theorem length_edges_build {describe : String → Method} (described : ∀ id, (describe id).id = id)
    {m : CallersMap} (wellFormed : m.WellFormed) (distinct : Distinct m) :
    (build describe m).edges.length = m.count := by
  rw [(edges_build_perm described wellFormed distinct).length_eq, length_edgesOf]

/-- The graph of a closed map has as many nodes as the map has keys. -/
theorem length_nodes_build {describe : String → Method} (described : ∀ id, (describe id).id = id)
    {m : CallersMap} (wellFormed : m.WellFormed) (closed : m.Closed) :
    (build describe m).nodes.length = m.length := by
  have hholds := build_holds described m
  have hperm : (build describe m).methodIds.Perm m.keys := by
    refine (List.perm_ext_iff_of_nodup hholds.methodIds_nodup wellFormed.keys_nodup).2 ?_
    intro id
    rw [hholds.mem_methodIds, CallersMap.mentions_iff_mem_keys wellFormed closed]
  simpa [methodIds, CallersMap.keys] using hperm.length_eq

end CallAtlas.CallGraph
