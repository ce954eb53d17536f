import CallAtlas.Proofs.Focus
import CallAtlas.Proofs.GraphBuild
import CallAtlas.Proofs.Supervision
import CallAtlas.Resolver.Calls
import CallAtlas.Run.Execution

/-!
# Outcomes of runs

A run always comes to an outcome: that of the fault which stopped it, or the laid out graph of the
callers map that it gathered.  The counts of an outcome are those of its graph, since every caller in
a gathered map is a key of the map.
-/

namespace CallAtlas

open Settings (Session)

/-- The parts of an outcome agree with its status. -/
def RunResult.WellFormed (r : RunResult) : Prop :=
  match r.status with
  | .completed => ∃ g, r.graph = some g ∧ g.nodes ≠ [] ∧ r.methodCount = g.nodes.length ∧
      r.callerCount = g.edges.length
  | .empty => ∃ g, r.graph = some g ∧ g.nodes = [] ∧ g.edges = [] ∧ r.methodCount = 0 ∧
      r.callerCount = 0
  | .cancelled => r.graph = none ∧ r.methodCount = 0 ∧ r.callerCount = 0
  | .failed => r.graph = none ∧ r.methodCount = 0 ∧ r.callerCount = 0 ∧ ∃ message,
      r.message = some message

/-- Whatever stops a run, its outcome is well formed. -/
theorem Fault.result_wellFormed (label : String) (f : Fault) : (f.result label).WellFormed := by
  cases f with
  | cancelled => exact ⟨rfl, rfl, rfl⟩
  | noActiveScope message => exact ⟨.empty, rfl, rfl, rfl, rfl, rfl⟩
  | unknownMethod message => exact ⟨rfl, rfl, rfl, _, rfl⟩
  | malformedLayout message => exact ⟨rfl, rfl, rfl, _, rfl⟩
  | other message => exact ⟨rfl, rfl, rfl, _, rfl⟩

theorem Fault.result_possible (label : String) (f : Fault) : (f.result label).Possible := by
  intro hstatus
  cases f with
  | cancelled => rfl
  | noActiveScope message => cases hstatus
  | unknownMethod message => cases hstatus
  | malformedLayout message => cases hstatus
  | other message => cases hstatus

theorem RunResult.finished_wellFormed (label : String) {m : CallersMap} {g : CallGraph}
    (hnodes : g.nodes.length = m.length) (hedges : g.edges.length = m.count) :
    (RunResult.finished label m g).WellFormed := by
  by_cases hempty : g.isEmpty = true
  · have hnil : g.nodes = [] := List.isEmpty_iff.1 hempty
    obtain rfl : m = [] := List.length_eq_zero_iff.1 (hnodes.symm.trans (by rw [hnil]; rfl))
    have hedgesNil : g.edges = [] := List.length_eq_zero_iff.1 hedges
    unfold RunResult.WellFormed RunResult.finished
    simp only [hempty, if_true]
    exact ⟨g, rfl, hnil, hedgesNil, rfl, rfl⟩
  · have hne : g.nodes ≠ [] := fun hnil => hempty (List.isEmpty_iff.2 hnil)
    unfold RunResult.WellFormed RunResult.finished
    simp only [hempty, Bool.false_eq_true, if_false]
    exact ⟨g, rfl, hne, hnodes.symm, hedges.symm⟩

/-- Two graphs with the same edges and equally many nodes. -/
structure CallGraph.SameSize (g g' : CallGraph) : Prop where
  nodes : g'.nodes.length = g.nodes.length
  edges : g'.edges = g.edges

theorem Layout.apply_sameSize {g g' : CallGraph} {text : String} {scale : Layout.Pair}
    (h : Layout.apply g text scale = .ok g') : g.SameSize g' := by
  unfold Layout.apply at h
  split at h
  · cases h
  · dsimp only at h
    split at h
    · cases h
    · obtain rfl := Except.ok.inj h
      exact ⟨List.length_map .., rfl⟩

theorem Layout.finish_sameSize {g g' : CallGraph} {scale : Layout.Pair} {token token' : Token}
    {answer : Except Layout.EngineError String}
    (h : Layout.finish g scale token answer = (.ok g', token')) : g.SameSize g' := by
  unfold Layout.finish at h
  split at h
  · cases h
  · split at h
    · cases h
    · exact Layout.apply_sameSize (Prod.mk.inj h).1

namespace Runner

variable {r : Runner} {s : Session} {request : RunRequest} {token : Token}

theorem describe_id (resolver : Resolver) (id : String) : (describe resolver id).id = id := by
  unfold describe
  split <;> rfl

theorem gatherMap_closed {resolver : FiniteResolver} {scope : Project.SearchScope} {w w' : Walk}
    {m : CallersMap} (h : r.gatherMap resolver scope request w = (.ok m, w')) :
    m.WellFormed ∧ m.Closed := by
  unfold gatherMap at h
  dsimp only at h
  split at h
  · split at h
    · rename_i hscope
      obtain rfl := Except.ok.inj (Prod.mk.inj h).1
      exact Traversal.scopeMap_closed hscope
    · cases h
  · split at h
    · cases h
    · cases h
    · split at h
      · rename_i hfocus
        obtain rfl := Except.ok.inj (Prod.mk.inj h).1
        exact Traversal.focusMap_closed hfocus
      · cases h

theorem gather_closed {host : Project.Host} {w w' : Walk} {gathered : Gathered}
    (h : r.gather host request w = (.ok gathered, w')) :
    gathered.callers.WellFormed ∧ gathered.callers.Closed := by
  unfold gather at h
  split at h
  · cases h
  split at h
  · cases h
  split at h
  · cases h
  split at h
  · cases h
  split at h
  · cases h
  · rename_i hmap
    obtain rfl := Except.ok.inj (Prod.mk.inj h).1
    exact gatherMap_closed hmap

def Gathered.graph (gathered : Gathered) : CallGraph :=
  CallGraph.build (describe gathered.resolver.toResolver) gathered.callers

/-- How a run can end: a fault stops it, or it gathers a callers map and lays out its graph. -/
inductive Ends (r : Runner) (s : Session) (request : RunRequest) (token : Token) :
    RunResult → Prop where
  | fault (f : Fault) : Ends r s request token (f.result request.sourceLabel)
  | finished {gathered : Gathered} {w : Walk} {g : CallGraph}
      (gather : r.gather s.host request (.start token) = (.ok gathered, w))
      (sameSize : gathered.graph.SameSize g) :
      Ends r s request token (.finished request.sourceLabel gathered.callers g)

theorem conclude_ends {gathered : Gathered} {w : Walk} {g : CallGraph} (last : Token)
    (hgather : r.gather s.host request (.start token) = (.ok gathered, w))
    (sameSize : gathered.graph.SameSize g) :
    Ends r s request token (conclude request.sourceLabel gathered.callers g last) := by
  unfold conclude
  split
  · exact .fault .cancelled
  · exact .finished hgather sameSize

/-- How far a run comes without its layout engine. -/
inductive Prepares (r : Runner) (s : Session) (request : RunRequest) (token : Token) :
    Stage → Prop where
  | ended {result : RunResult} (ends : Ends r s request token result) :
      Prepares r s request token (.ended result)
  | waiting {gathered : Gathered} {w : Walk} {waiting : Waiting}
      (gather : r.gather s.host request (.start token) = (.ok gathered, w))
      (label : waiting.label = request.sourceLabel) (callers : waiting.callers = gathered.callers)
      (graph : waiting.graph = gathered.graph) : Prepares r s request token (.waiting waiting)

theorem prepareLayout_prepares {gathered : Gathered} {w : Walk} (last : Token) (session : Session)
    (hgather : r.gather s.host request (.start token) = (.ok gathered, w)) :
    Prepares r s request token
      (r.prepareLayout session request.sourceLabel gathered.callers gathered.graph last).1 := by
  unfold prepareLayout
  split
  · exact .ended (conclude_ends last hgather ⟨rfl, rfl⟩)
  split
  · exact .ended (.fault _)
  split
  · exact .ended (.fault .cancelled)
  · exact .waiting hgather rfl rfl rfl

theorem prepare_prepares (r : Runner) (s : Session) (request : RunRequest) (token : Token) :
    Prepares r s request token (r.prepare s request token).1 := by
  unfold prepare
  dsimp only
  split
  · exact .ended (.fault _)
  rename_i gathered w hgather
  split
  · exact .ended (.fault .cancelled)
  split
  · exact .ended (.fault .cancelled)
  · exact prepareLayout_prepares _ s hgather

/-- Every run ends in one of these ways, whatever its engine answers. -/
theorem run_ends (r : Runner) (s : Session) (engine : Layout.Engine) (request : RunRequest)
    (token : Token) : Ends r s request token (r.run s engine request token).1 := by
  have prepares := prepare_prepares r s request token
  unfold run
  split
  · rename_i hprepare
    rw [hprepare] at prepares
    cases prepares with
    | ended ends => exact ends
  · rename_i waiting s' hprepare
    rw [hprepare] at prepares
    cases prepares with
    | waiting hgather hlabel hcallers hgraph =>
        dsimp only
        unfold complete
        rw [hlabel, hcallers, hgraph]
        split
        · exact .fault _
        · rename_i hfinish
          exact conclude_ends _ hgather (Layout.finish_sameSize hfinish)

/-- A run that is cancelled has no graph. -/
theorem run_possible (r : Runner) (s : Session) (engine : Layout.Engine) (request : RunRequest)
    (token : Token) : (r.run s engine request token).1.Possible := by
  intro hstatus
  generalize hrun : (r.run s engine request token).1 = result at hstatus ⊢
  cases hrun ▸ run_ends r s engine request token with
  | fault f => exact f.result_possible request.sourceLabel hstatus
  | finished hgather sameSize =>
      unfold RunResult.finished at hstatus
      dsimp only at hstatus
      split at hstatus <;> cases hstatus

/-- Every run comes to an outcome whose parts agree with its status: a completed run has a graph with
nodes, as many of them as methods were counted and as many edges as callers; an empty run has a graph
without nodes and edges; a cancelled or failed run has no graph, and a failed one says why. -/
theorem run_wellFormed (r : Runner) (s : Session) (engine : Layout.Engine) (request : RunRequest)
    (token : Token)
    (distinct : ∀ gathered w, r.gather s.host request (.start token) = (.ok gathered, w) →
      CallGraph.Distinct gathered.callers) :
    (r.run s engine request token).1.WellFormed := by
  generalize hrun : (r.run s engine request token).1 = result
  cases hrun ▸ run_ends r s engine request token with
  | fault f => exact f.result_wellFormed request.sourceLabel
  | @finished gathered w g hgather sameSize =>
      obtain ⟨wellFormed, closed⟩ := gather_closed hgather
      have described := describe_id gathered.resolver.toResolver
      refine RunResult.finished_wellFormed request.sourceLabel ?_ ?_
      · exact sameSize.nodes.trans (CallGraph.length_nodes_build described wellFormed closed)
      · rw [sameSize.edges]
        exact CallGraph.length_edges_build described wellFormed (distinct gathered w hgather)

def twoMethods : FiniteResolver :=
  .ofCalls [.ofId "a.py::f", .ofId "a.py::g"] [.make ["a.py::g"] "a.py::f" none] 1 none

def small : Runner := ⟨"/p", .default "/p", ⟨"/p", 0, 0, 0, [], []⟩, some twoMethods, .given⟩

def noFiles : Session := ⟨⟨⟨[]⟩, [], [], "", []⟩, none⟩

theorem small_gather :
    ∃ m w, small.gather noFiles.host .default (.start .never) = (.ok ⟨m, twoMethods⟩, w) ∧
      ∀ id, id ∈ m.keys ↔ id = "a.py::f" ∨ id = "a.py::g" := by
  have hscope : Project.searchScope noFiles.host small.project (.ok small.filter)
      RunRequest.default.selection = .ok ⟨[""], false⟩ := rfl
  have hmethods : twoMethods.methodsIn ⟨[""], false⟩ = .ok ["a.py::f", "a.py::g"] :=
    congrArg Except.ok (by decide +kernel)
  obtain ⟨m, w, hm⟩ := Traversal.scopeMap_calm (w := .start .never)
    ⟨small.config.analysis.maxWorkers, small.schedule⟩ rfl hmethods fun id _ => ⟨_, rfl⟩
  refine ⟨m, w, ?_, ?_⟩
  · have hresolver : small.runResolver noFiles.host = .ok twoMethods := rfl
    have hmap : small.gatherMap twoMethods ⟨[""], false⟩ .default (.start .never) = (.ok m, w) := by
      simp only [gatherMap, RunRequest.default, hm]
    simp only [gather, hscope, Project.SearchScope.isEmpty, List.isEmpty_cons, Walk.check, Walk.start,
      Token.check, Token.never, hresolver] at hmap ⊢
    simp only [Bool.false_eq_true, if_false, hmap]
  · intro id
    obtain ⟨ids, hids, -, hkeys, -⟩ := Traversal.scopeMap_ok hm
    obtain rfl := Except.ok.inj (hmethods.symm.trans hids)
    simp [hkeys]

/-- The run over two methods gathers both of them, and its outcome is well formed. -/
theorem run_wellFormed_small :
    (∃ m w, small.gather noFiles.host .default (.start .never) = (.ok ⟨m, twoMethods⟩, w) ∧
      ∀ id, id ∈ m.keys ↔ id = "a.py::f" ∨ id = "a.py::g") ∧
    (small.run noFiles .row .default .never).1.WellFormed := by
  refine ⟨small_gather, run_wellFormed small noFiles .row .default .never ?_⟩
  obtain ⟨m, w, hgather, hkeys⟩ := small_gather
  rintro gathered w' hgather'
  obtain rfl := Except.ok.inj (Prod.mk.inj (hgather.symm.trans hgather')).1
  obtain ⟨wellFormed, closed⟩ := gather_closed hgather
  have hne : CallGraph.nodeId "a.py::f" ≠ CallGraph.nodeId "a.py::g" := by decide +kernel
  intro a b ha hb heq
  rw [CallersMap.mentions_iff_mem_keys wellFormed closed, hkeys] at ha hb
  rcases ha with rfl | rfl
  · rcases hb with rfl | rfl
    · rfl
    · exact absurd heq hne
  · rcases hb with rfl | rfl
    · exact absurd heq.symm hne
    · rfl

end Runner

end CallAtlas
