import CallAtlas.Layout.Apply
import CallAtlas.Proofs.GraphStore
import Mathlib.Data.List.Nodup
import Mathlib.Data.Set.Function

/-!
# Graphs over their histories

A graph keeps its edges three times, in the list of all edges, with the nodes that they leave and
with the nodes that they enter, and its nodes twice, in the list of all nodes and in the register.
The copies agree after every history of additions and layouts, as long as different methods have
different node IDs.
-/

namespace CallAtlas.CallGraph

/-- What may be done to a graph. -/
inductive Operation where
  | addNode (m : Method)
  | addEdge (source target : Method)
  | applyLayout (text : String) (scale : Layout.Pair)
  | layOut (engine : Layout.Engine) (options : Layout.Options) (token : Token)

namespace Operation

/-- The graph after an operation; a layout that fails leaves it as it was. -/
def perform (g : CallGraph) : Operation → CallGraph
  | .addNode m => g.addNode m
  | .addEdge source target => g.addEdge source target
  | .applyLayout text scale => (Layout.apply g text scale).toOption.getD g
  | .layOut engine options token => (Layout.layOut g engine options token).1.toOption.getD g

def methods : Operation → List String
  | .addNode m => [m.id]
  | .addEdge source target => [source.id, target.id]
  | .applyLayout .. => []
  | .layOut .. => []

def calls : Operation → List (String × String)
  | .addEdge source target => [(source.id, target.id)]
  | .addNode _ => []
  | .applyLayout .. => []
  | .layOut .. => []

end Operation

def after (history : List Operation) : CallGraph := history.foldl Operation.perform empty

/-- IDs of the methods that a history adds, in the order in which it first adds them. -/
def methodsOf (history : List Operation) : List String :=
  (history.flatMap Operation.methods).eraseDups

/-- The calls that a history adds, in the order in which it first adds them. -/
def callsOf (history : List Operation) : List (String × String) :=
  (history.flatMap Operation.calls).eraseDups

/-- Different methods have different node IDs. -/
def Apart (ids : List String) : Prop := Set.InjOn nodeId {id | id ∈ ids}

def edgeFor (call : String × String) : GraphEdge := .between (nodeId call.1) (nodeId call.2)

theorem Apart.mono {ids ids' : List String} (apart : Apart ids) (h : ∀ id ∈ ids', id ∈ ids) :
    Apart ids' :=
  Set.InjOn.mono h apart

/-! ## Copies that agree -/

theorem edgeId_target_inj {s t t' : String} (h : edgeId s t = edgeId s t') : t = t' := by
  simpa [edgeId] using h

theorem edgeId_source_inj {s s' t : String} (h : edgeId s t = edgeId s' t) : s = s' := by
  simpa [edgeId] using h

/-- Edges with the same ID and one common end are the same. -/
theorem edge_ext {e e' : GraphEdge} (he : e = .between e.source e.target)
    (he' : e' = .between e'.source e'.target) (hend : e.source = e'.source ∨ e.target = e'.target)
    (hid : e.id = e'.id) : e = e' := by
  have hids : edgeId e.source e.target = edgeId e'.source e'.target :=
    (congrArg GraphEdge.id he).symm.trans (hid.trans (congrArg GraphEdge.id he'))
  rcases hend with hsource | htarget
  · rw [hsource] at hids
    rw [he, he', hsource, edgeId_target_inj hids]
  · rw [htarget] at hids
    rw [he, he', htarget, edgeId_source_inj hids]

/-- A new edge is recorded at one of its ends after the edges that have the same end. -/
theorem record_filter (side : GraphEdge → String) {edges : List GraphEdge} {e : GraphEdge}
    (hnew : ∀ other ∈ edges, side other = side e → other.id ≠ e.id) (id : String) :
    (if id = side e then record (edges.filter fun x => side x = id) e
      else edges.filter fun x => side x = id) =
      (edges ++ [e]).filter fun x => side x = id := by
  rw [List.filter_append]
  split
  · rename_i hid
    subst hid
    have hfresh : ¬ (edges.filter fun x => side x = side e).any (fun other => other.id = e.id) := by
      simpa using fun other hother hside => hnew other hother hside
    rw [record, if_neg hfresh]
    simp
  · rename_i hid
    simp [Ne.symm hid]

/-- All copies in a graph hold the nodes of the given methods and the edges of the given calls. -/
structure Keeps (g : CallGraph) (ids : List String) (calls : List (String × String)) : Prop where
  tidy : g.Tidy
  methodIds_eq : g.methodIds = ids
  ids_nodup : ids.Nodup
  edges_eq : g.edges = calls.map edgeFor
  calls_nodup : calls.Nodup
  ends_mem : ∀ call ∈ calls, call.1 ∈ ids ∧ call.2 ∈ ids
  leaving_eq : ∀ n ∈ g.nodes, n.leaving = g.edges.filter fun e => e.source = n.id
  entering_eq : ∀ n ∈ g.nodes, n.entering = g.edges.filter fun e => e.target = n.id

theorem empty_keeps : empty.Keeps [] [] where
  tidy := empty_tidy
  methodIds_eq := rfl
  ids_nodup := List.nodup_nil
  edges_eq := rfl
  calls_nodup := List.nodup_nil
  ends_mem := by simp
  leaving_eq := by simp [empty]
  entering_eq := by simp [empty]

namespace Keeps

variable {g : CallGraph} {ids : List String} {calls : List (String × String)}

theorem mem_ids (keeps : g.Keeps ids calls) {n : GraphNode} (h : n ∈ g.nodes) :
    n.method.id ∈ ids :=
  keeps.methodIds_eq ▸ List.mem_map_of_mem h

theorem methodIds_nodup (keeps : g.Keeps ids calls) : g.methodIds.Nodup :=
  keeps.methodIds_eq ▸ keeps.ids_nodup

theorem exists_node (keeps : g.Keeps ids calls) {id : String} (h : id ∈ ids) :
    ∃ n ∈ g.nodes, n.method.id = id := by
  rw [← keeps.methodIds_eq] at h
  exact List.mem_map.1 h

theorem mem_edges (keeps : g.Keeps ids calls) {e : GraphEdge} :
    e ∈ g.edges ↔ ∃ call ∈ calls, edgeFor call = e := by
  rw [keeps.edges_eq, List.mem_map]

/-- Both ends of an edge are nodes. -/
theorem ends (keeps : g.Keeps ids calls) {e : GraphEdge} (h : e ∈ g.edges) :
    (∃ n ∈ g.nodes, n.id = e.source) ∧ ∃ n ∈ g.nodes, n.id = e.target := by
  obtain ⟨call, hcall, rfl⟩ := keeps.mem_edges.1 h
  obtain ⟨hsource, htarget⟩ := keeps.ends_mem call hcall
  obtain ⟨s, hs, hsid⟩ := keeps.exists_node hsource
  obtain ⟨t, ht, htid⟩ := keeps.exists_node htarget
  refine ⟨⟨s, hs, ?_⟩, ⟨t, ht, ?_⟩⟩
  · rw [keeps.tidy.node_id s hs, hsid]
    rfl
  · rw [keeps.tidy.node_id t ht, htid]
    rfl

theorem edgeFor_inj (keeps : g.Keeps ids calls) (apart : Apart ids) {call call' : String × String}
    (hcall : call ∈ calls) (hcall' : call'.1 ∈ ids ∧ call'.2 ∈ ids)
    (h : edgeFor call = edgeFor call') : call = call' := by
  obtain ⟨hsource, htarget⟩ := keeps.ends_mem call hcall
  exact Prod.ext (apart hsource hcall'.1 (congrArg GraphEdge.source h))
    (apart htarget hcall'.2 (congrArg GraphEdge.target h))

/-- A call of known methods has an edge exactly if it is one of the given calls. -/
theorem edgeFor_mem (keeps : g.Keeps ids calls) (apart : Apart ids) (call : String × String)
    (hcall : call.1 ∈ ids ∧ call.2 ∈ ids) : edgeFor call ∈ g.edges ↔ call ∈ calls := by
  rw [keeps.mem_edges]
  constructor
  · rintro ⟨call', hcall', heq⟩
    exact keeps.edgeFor_inj apart hcall' hcall heq ▸ hcall'
  · intro hmem
    exact ⟨call, hmem, rfl⟩

theorem edges_nodup (keeps : g.Keeps ids calls) (apart : Apart ids) : g.edges.Nodup := by
  rw [keeps.edges_eq]
  refine keeps.calls_nodup.map_on fun call hcall call' hcall' heq => ?_
  exact keeps.edgeFor_inj apart hcall (keeps.ends_mem call' hcall') heq

/-- No edge has an end without a node. -/
theorem notMem_ends (keeps : g.Keeps ids calls) {id : String} (apart : Apart (ids ++ [id]))
    (hid : id ∉ ids) {e : GraphEdge} (he : e ∈ g.edges) :
    e.source ≠ nodeId id ∧ e.target ≠ nodeId id := by
  obtain ⟨call, hcall, rfl⟩ := keeps.mem_edges.1 he
  obtain ⟨hsource, htarget⟩ := keeps.ends_mem call hcall
  have hnew : id ∈ ids ++ [id] := by simp
  constructor
  · intro heq
    obtain rfl := apart (List.mem_append_left _ hsource) hnew heq
    exact hid hsource
  · intro heq
    obtain rfl := apart (List.mem_append_left _ htarget) hnew heq
    exact hid htarget

theorem insertNode (keeps : g.Keeps ids calls) (m : Method) (apart : Apart (ids ++ [m.id]))
    (hid : m.id ∉ ids) : (g.insertNode (newNode m)).Keeps (ids ++ [m.id]) calls where
  tidy := keeps.tidy.insertNode m
  methodIds_eq := by
    simp [methodIds, CallGraph.insertNode, newNode, ← keeps.methodIds_eq]
  ids_nodup := keeps.ids_nodup.append (List.nodup_singleton _) (by simpa using hid)
  edges_eq := keeps.edges_eq
  calls_nodup := keeps.calls_nodup
  ends_mem := fun call hcall =>
    ⟨List.mem_append_left _ (keeps.ends_mem call hcall).1,
      List.mem_append_left _ (keeps.ends_mem call hcall).2⟩
  leaving_eq := by
    intro n hn
    rcases List.mem_append.1 hn with hn | hn
    · exact keeps.leaving_eq n hn
    · obtain rfl := List.mem_singleton.1 hn
      refine (List.filter_eq_nil_iff.2 fun e he => ?_).symm
      exact mt of_decide_eq_true (keeps.notMem_ends apart hid he).1
  entering_eq := by
    intro n hn
    rcases List.mem_append.1 hn with hn | hn
    · exact keeps.entering_eq n hn
    · obtain rfl := List.mem_singleton.1 hn
      refine (List.filter_eq_nil_iff.2 fun e he => ?_).symm
      exact mt of_decide_eq_true (keeps.notMem_ends apart hid he).2

theorem addNode (keeps : g.Keeps ids calls) (m : Method) (apart : Apart (ids ++ [m.id])) :
    (g.addNode m).Keeps (CallersMap.insertNew ids m.id) calls := by
  unfold CallersMap.insertNew
  by_cases hid : m.id ∈ ids
  · rw [if_pos (List.contains_iff_mem.2 hid),
      keeps.tidy.addNode_of_mem (keeps.methodIds_eq.symm ▸ hid)]
    exact keeps
  · rw [if_neg (mt List.contains_iff_mem.1 hid),
      keeps.tidy.addNode_of_notMem (keeps.methodIds_eq.symm ▸ hid)]
    exact keeps.insertNode m apart hid

theorem insertEdge (keeps : g.Keeps ids calls) (apart : Apart ids) {call : String × String}
    (hends : call.1 ∈ ids ∧ call.2 ∈ ids) (hcall : call ∉ calls) :
    (g.insertEdge (edgeFor call)).Keeps ids (calls ++ [call]) := by
  have hnew : edgeFor call ∉ g.edges := mt (keeps.edgeFor_mem apart call hends).1 hcall
  have hfresh : ∀ other ∈ g.edges, other.source = (edgeFor call).source ∨
      other.target = (edgeFor call).target → other.id ≠ (edgeFor call).id := by
    intro other hother hend hid
    exact hnew (edge_ext (keeps.tidy.edge_eq other hother) rfl hend hid ▸ hother)
  refine ⟨keeps.tidy.insertEdge _ _, ?_, keeps.ids_nodup, ?_, ?_, ?_, ?_, ?_⟩
  · rw [methodIds_insertEdge, keeps.methodIds_eq]
  · rw [CallGraph.insertEdge, keeps.edges_eq, List.map_append, List.map_singleton]
  · exact keeps.calls_nodup.append (List.nodup_singleton _) (by simpa using hcall)
  · intro call' hcall'
    rcases List.mem_append.1 hcall' with hcall' | hcall'
    · exact keeps.ends_mem call' hcall'
    · obtain rfl := List.mem_singleton.1 hcall'
      exact hends
  · intro n hn
    obtain ⟨old, hold, rfl⟩ := List.mem_map.1 hn
    have hleaving := keeps.leaving_eq old hold
    simp only [link, hleaving]
    exact record_filter GraphEdge.source (fun other hother hend => hfresh other hother (.inl hend)) _
  · intro n hn
    obtain ⟨old, hold, rfl⟩ := List.mem_map.1 hn
    have hentering := keeps.entering_eq old hold
    simp only [link, hentering]
    exact record_filter GraphEdge.target (fun other hother hend => hfresh other hother (.inr hend)) _

/-- Adding an edge adds the nodes of its methods, and the call unless it is known. -/
theorem addEdge (keeps : g.Keeps ids calls) (source target : Method)
    (apart : Apart (ids ++ [source.id, target.id])) :
    (g.addEdge source target).Keeps
      (CallersMap.insertNew (CallersMap.insertNew ids source.id) target.id)
      (if (source.id, target.id) ∈ calls then calls else calls ++ [(source.id, target.id)]) := by
  have hmem : ∀ id ∈ CallersMap.insertNew (CallersMap.insertNew ids source.id) target.id,
      id ∈ ids ++ [source.id, target.id] := by simp [or_assoc]
  have hnodes := (keeps.addNode source (apart.mono (by simp; tauto))).addNode target
    (apart.mono (by simp; tauto))
  have hends : source.id ∈ CallersMap.insertNew (CallersMap.insertNew ids source.id) target.id ∧
      target.id ∈ CallersMap.insertNew (CallersMap.insertNew ids source.id) target.id := by simp
  have hknown := hnodes.edgeFor_mem (apart.mono hmem) (source.id, target.id) hends
  rw [CallGraph.addEdge]
  split
  · rename_i hcall
    rw [keeps.tidy.withEdge_of_mem (hknown.2 hcall)]
    exact hnodes
  · rename_i hcall
    rw [keeps.tidy.withEdge_of_notMem (mt hknown.1 hcall)]
    exact hnodes.insertEdge (apart.mono hmem) hends hcall

/-- Moving nodes changes nothing but their places. -/
theorem place (keeps : g.Keeps ids calls) (position : String → Option Point) :
    (g.place position).Keeps ids calls := by
  have hmoved : ∀ n ∈ (g.place position).nodes, ∃ old ∈ g.nodes, n.id = old.id ∧
      n.method = old.method ∧ n.leaving = old.leaving ∧ n.entering = old.entering := by
    intro n hn
    obtain ⟨old, hold, rfl⟩ := List.mem_map.1 hn
    refine ⟨old, hold, ?_⟩
    split <;> exact ⟨rfl, rfl, rfl, rfl⟩
  have hregister : (g.place position).nodes.map (fun n => (n.method.id, n.id)) =
      g.nodes.map fun n => (n.method.id, n.id) := by
    rw [CallGraph.place, List.map_map]
    refine List.map_congr_left fun n _ => ?_
    dsimp only [Function.comp_apply]
    split <;> rfl
  refine ⟨⟨?_, ?_, keeps.tidy.edge_eq⟩, ?_, keeps.ids_nodup, keeps.edges_eq, keeps.calls_nodup,
    keeps.ends_mem, ?_, ?_⟩
  · rw [hregister]
    exact keeps.tidy.register_eq
  · intro n hn
    obtain ⟨old, hold, hid, hmethod, -, -⟩ := hmoved n hn
    rw [hid, hmethod, keeps.tidy.node_id old hold]
  · have hfirst := congrArg (List.map Prod.fst) hregister
    rw [List.map_map, List.map_map] at hfirst
    exact hfirst.trans keeps.methodIds_eq
  · intro n hn
    obtain ⟨old, hold, hid, -, hleaving, -⟩ := hmoved n hn
    rw [hleaving, hid]
    exact keeps.leaving_eq old hold
  · intro n hn
    obtain ⟨old, hold, hid, -, -, hentering⟩ := hmoved n hn
    rw [hentering, hid]
    exact keeps.entering_eq old hold

end Keeps

theorem eraseDups_concat {α : Type} [BEq α] [LawfulBEq α] [DecidableEq α] (l : List α) (x : α) :
    (l ++ [x]).eraseDups = if x ∈ l.eraseDups then l.eraseDups else l.eraseDups ++ [x] := by
  rw [List.eraseDups_append]
  by_cases hx : x ∈ l
  · simp [List.removeAll, List.mem_eraseDups, hx]
  · simp [List.removeAll, List.mem_eraseDups, hx, List.eraseDups_cons]

theorem eraseDups_insertNew (l : List String) (x : String) :
    (l ++ [x]).eraseDups = CallersMap.insertNew l.eraseDups x := by
  rw [eraseDups_concat]
  simp [CallersMap.insertNew]

/-- A layout moves nodes or leaves the graph as it was. -/
theorem apply_eq_place {g g' : CallGraph} {text : String} {scale : Layout.Pair}
    (h : Layout.apply g text scale = .ok g') : ∃ position, g' = g.place position := by
  unfold Layout.apply at h
  split at h
  · cases h
  · dsimp only at h
    split at h
    · cases h
    · exact ⟨_, (Except.ok.inj h).symm⟩

theorem layOut_eq_place {g g' : CallGraph} {engine : Layout.Engine} {options : Layout.Options}
    {token token' : Token} (h : Layout.layOut g engine options token = (.ok g', token')) :
    g' = g ∨ ∃ position, g' = g.place position := by
  unfold Layout.layOut at h
  split at h
  · exact .inl (Except.ok.inj (Prod.mk.inj h).1).symm
  · split at h
    · cases h
    · unfold Layout.finish at h
      split at h
      · cases h
      · split at h
        · cases h
        · exact .inr (apply_eq_place (Prod.mk.inj h).1)

/-- What a history adds is kept after one more operation. -/
theorem Keeps.perform {g : CallGraph} {past : List Operation}
    (keeps : g.Keeps (methodsOf past) (callsOf past)) (op : Operation)
    (apart : Apart (methodsOf (past ++ [op]))) :
    (op.perform g).Keeps (methodsOf (past ++ [op])) (callsOf (past ++ [op])) := by
  simp only [methodsOf, callsOf, List.flatMap_append, List.flatMap_singleton] at keeps apart ⊢
  cases op with
  | addNode m =>
      simp only [Operation.methods, Operation.calls, List.append_nil, eraseDups_insertNew] at apart ⊢
      exact keeps.addNode m (apart.mono (by simp))
  | addEdge source target =>
      have hmethods : ∀ l : List String, (l ++ [source.id, target.id]).eraseDups =
          CallersMap.insertNew (CallersMap.insertNew l.eraseDups source.id) target.id := by
        intro l
        rw [← eraseDups_insertNew, ← eraseDups_insertNew, List.append_assoc]
        rfl
      simp only [Operation.methods, Operation.calls, hmethods, eraseDups_concat] at apart ⊢
      exact keeps.addEdge source target (apart.mono (by simp [or_assoc]))
  | applyLayout text scale =>
      simp only [Operation.methods, Operation.calls, List.append_nil]
      simp only [Operation.perform]
      cases hlayout : Layout.apply g text scale with
      | error e => exact keeps
      | ok g' =>
          obtain ⟨position, rfl⟩ := apply_eq_place hlayout
          exact keeps.place position
  | layOut engine options token =>
      simp only [Operation.methods, Operation.calls, List.append_nil]
      simp only [Operation.perform]
      rcases hlayout : Layout.layOut g engine options token with ⟨e | g', token'⟩
      · exact keeps
      · rcases layOut_eq_place hlayout with rfl | ⟨position, rfl⟩
        · exact keeps
        · exact keeps.place position

theorem Keeps.run {g : CallGraph} {past : List Operation}
    (keeps : g.Keeps (methodsOf past) (callsOf past)) (history : List Operation)
    (apart : Apart (methodsOf (past ++ history))) :
    (history.foldl Operation.perform g).Keeps (methodsOf (past ++ history))
      (callsOf (past ++ history)) := by
  induction history generalizing g past with
  | nil => simpa using keeps
  | cons op history ih =>
      rw [List.append_cons past op history] at apart ⊢
      refine ih (keeps.perform op (apart.mono ?_)) apart
      intro id hid
      rw [methodsOf, List.mem_eraseDups] at hid ⊢
      rw [List.flatMap_append]
      exact List.mem_append_left _ hid

/-- After every history, all copies in the graph hold what the history adds. -/
theorem after_keeps (history : List Operation) (apart : Apart (methodsOf history)) :
    (after history).Keeps (methodsOf history) (callsOf history) :=
  @Keeps.run empty [] empty_keeps history apart

/-! ## What is found in a graph -/

namespace Keeps

variable {g : CallGraph} {ids : List String} {calls : List (String × String)}

/-- A node is found under its ID. -/
theorem node?_eq (keeps : g.Keeps ids calls) (apart : Apart ids) {n : GraphNode}
    (hn : n ∈ g.nodes) : g.node? n.id = some n := by
  obtain ⟨found, hfound⟩ := isSome_node? hn
  have hmem := mem_of_node? hfound
  have hid := node?_id hfound
  rw [keeps.tidy.node_id found hmem, keeps.tidy.node_id n hn] at hid
  have hmethod := apart (keeps.mem_ids hmem) (keeps.mem_ids hn) hid
  rw [hfound, List.inj_on_of_nodup_map keeps.methodIds_nodup hmem hn hmethod]

/-- A node is found under its method. -/
theorem nodeFor?_eq (keeps : g.Keeps ids calls) (apart : Apart ids) {n : GraphNode}
    (hn : n ∈ g.nodes) : g.nodeFor? n.method.id = some n := by
  cases hfound : g.nodeFor? n.method.id with
  | none =>
      exact absurd (List.mem_map_of_mem hn) (keeps.tidy.nodeFor?_eq_none.1 hfound)
  | some found =>
      have hid := keeps.tidy.nodeFor?_id hfound
      obtain ⟨id, -, hnode⟩ := Option.bind_eq_some_iff.1 hfound
      rw [← keeps.tidy.node_id n hn] at hid
      rw [← keeps.node?_eq apart hn, ← hid]
      exact (keeps.node?_eq apart (mem_of_node? hnode)).symm

/-- The two ends of an edge are nodes that have recorded it. -/
theorem nodes_of_edge (keeps : g.Keeps ids calls) (apart : Apart ids) {e : GraphEdge}
    (he : e ∈ g.edges) :
    (∃ n, g.node? e.source = some n ∧ e ∈ n.leaving) ∧
      ∃ n, g.node? e.target = some n ∧ e ∈ n.entering := by
  obtain ⟨⟨s, hs, hsid⟩, ⟨t, ht, htid⟩⟩ := keeps.ends he
  refine ⟨⟨s, ?_, ?_⟩, ⟨t, ?_, ?_⟩⟩
  · rw [← hsid, keeps.node?_eq apart hs]
  · rw [keeps.leaving_eq s hs]
    exact List.mem_filter.2 ⟨he, decide_eq_true hsid.symm⟩
  · rw [← htid, keeps.node?_eq apart ht]
  · rw [keeps.entering_eq t ht]
    exact List.mem_filter.2 ⟨he, decide_eq_true htid.symm⟩

theorem hasEdge_iff (keeps : g.Keeps ids calls) {s t : String} :
    g.hasEdge s t = true ↔ .between s t ∈ g.edges := by
  rw [hasEdge, Option.isSome_iff_exists]
  constructor
  · rintro ⟨e, he⟩
    obtain ⟨hmem, rfl⟩ := keeps.tidy.edge?_eq_some.1 he
    exact hmem
  · intro hmem
    exact ⟨_, keeps.tidy.edge?_eq_some.2 ⟨hmem, rfl⟩⟩

theorem hasEdge_iff_leaving (keeps : g.Keeps ids calls) (apart : Apart ids) (s t : String) :
    g.hasEdge s t = true ↔ ∃ n, g.node? s = some n ∧ ∃ e ∈ n.leaving, e.id = edgeId s t := by
  rw [keeps.hasEdge_iff]
  constructor
  · intro hmem
    obtain ⟨⟨n, hn, he⟩, -⟩ := keeps.nodes_of_edge apart hmem
    exact ⟨n, hn, _, he, rfl⟩
  · rintro ⟨n, hn, e, he, hid⟩
    rw [keeps.leaving_eq n (mem_of_node? hn), List.mem_filter, decide_eq_true_eq, node?_id hn] at he
    have heq : e = .between s t := edge_ext (keeps.tidy.edge_eq e he.1) rfl (.inl he.2) hid
    exact heq ▸ he.1

theorem hasEdge_iff_entering (keeps : g.Keeps ids calls) (apart : Apart ids) (s t : String) :
    g.hasEdge s t = true ↔ ∃ n, g.node? t = some n ∧ ∃ e ∈ n.entering, e.id = edgeId s t := by
  rw [keeps.hasEdge_iff]
  constructor
  · intro hmem
    obtain ⟨-, n, hn, he⟩ := keeps.nodes_of_edge apart hmem
    exact ⟨n, hn, _, he, rfl⟩
  · rintro ⟨n, hn, e, he, hid⟩
    rw [keeps.entering_eq n (mem_of_node? hn), List.mem_filter, decide_eq_true_eq, node?_id hn] at he
    have heq : e = .between s t := edge_ext (keeps.tidy.edge_eq e he.1) rfl (.inr he.2) hid
    exact heq ▸ he.1

theorem mem_listEdges (keeps : g.Keeps ids calls) {e : GraphEdge} :
    e ∈ g.listEdges ↔ e ∈ g.edges := by
  rw [listEdges, List.mem_flatMap]
  constructor
  · rintro ⟨n, -, he⟩
    exact (List.mem_filter.1 he).1
  · intro he
    obtain ⟨⟨n, hn, hid⟩, -⟩ := keeps.ends he
    exact ⟨n, hn, List.mem_filter.2 ⟨he, decide_eq_true hid.symm⟩⟩

theorem listEdges_nodup (keeps : g.Keeps ids calls) (apart : Apart ids) : g.listEdges.Nodup := by
  refine List.nodup_flatMap.2 ⟨fun n _ => (keeps.edges_nodup apart).filter _, ?_⟩
  refine (List.pairwise_map.1 keeps.methodIds_nodup).imp_of_mem ?_
  intro n n' hn hn' hne e he he'
  have hid : n.id = n'.id := by
    rw [← of_decide_eq_true (List.mem_filter.1 he).2, of_decide_eq_true (List.mem_filter.1 he').2]
  rw [keeps.tidy.node_id n hn, keeps.tidy.node_id n' hn'] at hid
  exact hne (apart (keeps.mem_ids hn) (keeps.mem_ids hn') hid)

/-- The edges that a node has recorded have different IDs. -/
theorem edgeIds_nodup (keeps : g.Keeps ids calls) (apart : Apart ids) {n : GraphNode}
    (hn : n ∈ g.nodes) : (n.leaving.map (·.id)).Nodup ∧ (n.entering.map (·.id)).Nodup := by
  rw [keeps.leaving_eq n hn, keeps.entering_eq n hn]
  constructor
  · refine ((keeps.edges_nodup apart).filter _).map_on fun e he e' he' hid => ?_
    obtain ⟨hmem, hsource⟩ := List.mem_filter.1 he
    obtain ⟨hmem', hsource'⟩ := List.mem_filter.1 he'
    exact edge_ext (keeps.tidy.edge_eq e hmem) (keeps.tidy.edge_eq e' hmem')
      (.inl ((of_decide_eq_true hsource).trans (of_decide_eq_true hsource').symm)) hid
  · refine ((keeps.edges_nodup apart).filter _).map_on fun e he e' he' hid => ?_
    obtain ⟨hmem, htarget⟩ := List.mem_filter.1 he
    obtain ⟨hmem', htarget'⟩ := List.mem_filter.1 he'
    exact edge_ext (keeps.tidy.edge_eq e hmem) (keeps.tidy.edge_eq e' hmem')
      (.inr ((of_decide_eq_true htarget).trans (of_decide_eq_true htarget').symm)) hid

/-- The callers of a node are the sources of the edges that enter it. -/
theorem callers?_eq (keeps : g.Keeps ids calls) (apart : Apart ids) {n : GraphNode}
    (hn : n ∈ g.nodes) :
    ∃ ns, g.callers? n.id = some ns ∧ ns.map some = n.entering.map fun e => g.node? e.source := by
  refine ⟨n.entering.filterMap fun e => g.node? e.source, ?_, ?_⟩
  · rw [callers?, keeps.node?_eq apart hn, keeps.entering_eq n hn]
    rfl
  · rw [List.map_filterMap_some_eq_filter_map_isSome, List.filter_eq_self]
    intro found hfound
    obtain ⟨e, he, rfl⟩ := List.mem_map.1 hfound
    rw [keeps.entering_eq n hn] at he
    obtain ⟨⟨s, hs, -⟩, -⟩ := keeps.nodes_of_edge apart (List.mem_filter.1 he).1
    rw [hs, Option.isSome_some]

/-- The callees of a node are the targets of the edges that leave it. -/
theorem callees?_eq (keeps : g.Keeps ids calls) (apart : Apart ids) {n : GraphNode}
    (hn : n ∈ g.nodes) :
    ∃ ns, g.callees? n.id = some ns ∧ ns.map some = n.leaving.map fun e => g.node? e.target := by
  refine ⟨n.leaving.filterMap fun e => g.node? e.target, ?_, ?_⟩
  · rw [callees?, keeps.node?_eq apart hn, keeps.leaving_eq n hn]
    rfl
  · rw [List.map_filterMap_some_eq_filter_map_isSome, List.filter_eq_self]
    intro found hfound
    obtain ⟨e, he, rfl⟩ := List.mem_map.1 hfound
    rw [keeps.leaving_eq n hn] at he
    obtain ⟨-, t, ht, -⟩ := keeps.nodes_of_edge apart (List.mem_filter.1 he).1
    rw [ht, Option.isSome_some]

/-- Adding a node again gives the node that is there and changes nothing. -/
theorem withNode_eq (keeps : g.Keeps ids calls) {m : Method} (hm : m.id ∈ ids) :
    ∃ n, g.nodeFor? m.id = some n ∧ g.withNode m = (n, g) :=
  keeps.tidy.withNode_of_mem (keeps.methodIds_eq.symm ▸ hm)

/-- Adding an edge again gives the edge that is there and changes nothing. -/
theorem withEdge_eq (keeps : g.Keeps ids calls) {source target : Method}
    (hcall : (source.id, target.id) ∈ calls) :
    ∃ e, g.edge? (nodeId source.id) (nodeId target.id) = some e ∧
      g.withEdge source target = (e, g) := by
  have hedge : edgeFor (source.id, target.id) ∈ g.edges := keeps.mem_edges.2 ⟨_, hcall, rfl⟩
  obtain ⟨hsource, htarget⟩ := keeps.ends_mem _ hcall
  have hnodes : (g.addNode source).addNode target = g := by
    rw [keeps.tidy.addNode_of_mem (keeps.methodIds_eq.symm ▸ hsource),
      keeps.tidy.addNode_of_mem (keeps.methodIds_eq.symm ▸ htarget)]
  refine ⟨_, keeps.tidy.edge?_eq_some.2 ⟨hedge, rfl⟩, ?_⟩
  rw [keeps.tidy.withEdge_of_mem (hnodes.symm ▸ hedge), hnodes]
  rfl

end Keeps

/-! ## Graphs and their histories -/

/-- A graph holds exactly what a history has added to it, and every way to look it up agrees. -/
structure Represents (g : CallGraph) (history : List Operation) : Prop where
  /-- There is one node for each method that was added. -/
  mem_methodIds : ∀ id, id ∈ g.methodIds ↔ ∃ op ∈ history, id ∈ op.methods
  methodIds_nodup : g.methodIds.Nodup
  /-- A node is found under its ID and under its method. -/
  found : ∀ n ∈ g.nodes, g.node? (nodeId n.method.id) = some n ∧ g.nodeFor? n.method.id = some n
  /-- There is an edge exactly if the node that it leaves has recorded it. -/
  leaving : ∀ s t, g.hasEdge s t = true ↔
    ∃ n, g.node? s = some n ∧ edgeId s t ∈ n.leaving.map (·.id)
  /-- There is an edge exactly if the node that it enters has recorded it. -/
  entering : ∀ s t, g.hasEdge s t = true ↔
    ∃ n, g.node? t = some n ∧ edgeId s t ∈ n.entering.map (·.id)
  /-- No edge is recorded twice. -/
  recorded_nodup : ∀ n ∈ g.nodes, (n.leaving.map (·.id)).Nodup ∧ (n.entering.map (·.id)).Nodup
  /-- The two nodes have recorded the same edge, and it leads from the one to the other. -/
  ends : ∀ s t, g.hasEdge s t = true → ∃ e n n', g.edge? s t = some e ∧ e.id = edgeId s t ∧
    g.node? s = some n ∧ e.source = n.id ∧ e ∈ n.leaving ∧
    g.node? t = some n' ∧ e.target = n'.id ∧ e ∈ n'.entering
  /-- The list of all edges has each added call once. -/
  mem_listEdges : ∀ e, e ∈ g.listEdges ↔ ∃ op ∈ history, ∃ call ∈ op.calls, e = edgeFor call
  listEdges_nodup : (g.listEdges.map fun e => (e.source, e.target)).Nodup
  /-- Edges are recorded in the order in which they were first added. -/
  order : ∀ n ∈ g.nodes,
    n.leaving = ((callsOf history).map edgeFor).filter (fun e => e.source = n.id) ∧
    n.entering = ((callsOf history).map edgeFor).filter fun e => e.target = n.id
  /-- Callers are the sources of the edges that enter, callees the targets of those that leave. -/
  callers : ∀ n ∈ g.nodes, ∃ ns, g.callers? n.id = some ns ∧
    ns.map some = n.entering.map fun e => g.node? e.source
  callees : ∀ n ∈ g.nodes, ∃ ns, g.callees? n.id = some ns ∧
    ns.map some = n.leaving.map fun e => g.node? e.target
  /-- The sorted edges end at sorted nodes. -/
  sorted : ∀ e ∈ g.sortedEdges,
    (∃ n ∈ g.sortedNodes, n.id = e.source) ∧ ∃ n ∈ g.sortedNodes, n.id = e.target
  /-- Adding once more gives what is there and changes nothing. -/
  node_again : ∀ m : Method, (∃ op ∈ history, m.id ∈ op.methods) →
    ∃ n, g.nodeFor? m.id = some n ∧ g.withNode m = (n, g)
  edge_again : ∀ source target : Method, (∃ op ∈ history, (source.id, target.id) ∈ op.calls) →
    ∃ e, g.edge? (nodeId source.id) (nodeId target.id) = some e ∧ g.withEdge source target = (e, g)

theorem mem_methodsOf {history : List Operation} {id : String} :
    id ∈ methodsOf history ↔ ∃ op ∈ history, id ∈ op.methods := by
  rw [methodsOf, List.mem_eraseDups, List.mem_flatMap]

theorem mem_callsOf {history : List Operation} {call : String × String} :
    call ∈ callsOf history ↔ ∃ op ∈ history, call ∈ op.calls := by
  rw [callsOf, List.mem_eraseDups, List.mem_flatMap]

/-- After every history of additions and layouts, as long as the methods that it adds have different
node IDs, the graph holds exactly what was added, and all its copies of nodes and edges agree. -/
theorem after_represents (history : List Operation) (apart : Apart (methodsOf history)) :
    (after history).Represents history := by
  have keeps := after_keeps history apart
  refine ⟨?_, keeps.methodIds_nodup, ?_, ?_, ?_, fun n hn => keeps.edgeIds_nodup apart hn, ?_, ?_, ?_,
    ?_, fun n hn => keeps.callers?_eq apart hn, fun n hn => keeps.callees?_eq apart hn, ?_, ?_, ?_⟩
  · intro id
    rw [keeps.methodIds_eq, mem_methodsOf]
  · intro n hn
    rw [← keeps.tidy.node_id n hn]
    exact ⟨keeps.node?_eq apart hn, keeps.nodeFor?_eq apart hn⟩
  · intro s t
    simpa using keeps.hasEdge_iff_leaving apart s t
  · intro s t
    simpa using keeps.hasEdge_iff_entering apart s t
  · intro s t hedge
    have hmem := keeps.hasEdge_iff.1 hedge
    obtain ⟨⟨n, hn, hleaving⟩, n', hn', hentering⟩ := keeps.nodes_of_edge apart hmem
    exact ⟨_, n, n', keeps.tidy.edge?_eq_some.2 ⟨hmem, rfl⟩, rfl, hn, (node?_id hn).symm, hleaving,
      hn', (node?_id hn').symm, hentering⟩
  · intro e
    rw [keeps.mem_listEdges, keeps.mem_edges]
    constructor
    · rintro ⟨call, hcall, rfl⟩
      obtain ⟨op, hop, hcall⟩ := mem_callsOf.1 hcall
      exact ⟨op, hop, call, hcall, rfl⟩
    · rintro ⟨op, hop, call, hcall, rfl⟩
      exact ⟨call, mem_callsOf.2 ⟨op, hop, hcall⟩, rfl⟩
  · refine (keeps.listEdges_nodup apart).map_on fun e he e' he' hends => ?_
    obtain ⟨hsource, htarget⟩ := Prod.mk.inj hends
    rw [keeps.tidy.edge_eq e (keeps.mem_listEdges.1 he),
      keeps.tidy.edge_eq e' (keeps.mem_listEdges.1 he'), hsource, htarget]
  · intro n hn
    rw [← keeps.edges_eq]
    exact ⟨keeps.leaving_eq n hn, keeps.entering_eq n hn⟩
  · intro e he
    rw [sortedEdges, List.mem_mergeSort, keeps.mem_listEdges] at he
    simp only [sortedNodes, sortNodes, List.mem_mergeSort]
    exact keeps.ends he
  · intro m hm
    exact keeps.withNode_eq (mem_methodsOf.2 hm)
  · intro source target hcall
    exact keeps.withEdge_eq (mem_callsOf.2 hcall)

/-- A history with a method that calls itself, a layout, and additions of what is there. -/
def repeating : List Operation :=
  [.addEdge (.ofId "a.py::f") (.ofId "a.py::g"), .addEdge (.ofId "a.py::f") (.ofId "a.py::f"),
    .layOut .row ⟨⟨1, 1⟩, "LR"⟩ .never, .addNode (.ofId "a.py::g"),
    .addEdge (.ofId "a.py::f") (.ofId "a.py::g")]

/-- The repeating history adds two methods and two calls. -/
theorem after_represents_repeating :
    methodsOf repeating = ["a.py::f", "a.py::g"] ∧
    callsOf repeating = [("a.py::f", "a.py::g"), ("a.py::f", "a.py::f")] ∧
    (after repeating).Represents repeating := by
  have hmethods : methodsOf repeating = ["a.py::f", "a.py::g"] := by decide +kernel
  have hcalls : callsOf repeating = [("a.py::f", "a.py::g"), ("a.py::f", "a.py::f")] := by
    decide +kernel
  have hne : nodeId "a.py::f" ≠ nodeId "a.py::g" := by decide +kernel
  refine ⟨hmethods, hcalls, after_represents repeating ?_⟩
  rw [hmethods]
  intro a ha b hb heq
  simp only [Set.mem_ofPred_eq, List.mem_cons, List.not_mem_nil, or_false] at ha hb
  rcases ha with rfl | rfl
  · rcases hb with rfl | rfl
    · rfl
    · exact absurd heq hne
  · rcases hb with rfl | rfl
    · exact absurd heq.symm hne
    · rfl

end CallAtlas.CallGraph
