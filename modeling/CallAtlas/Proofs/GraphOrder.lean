import CallAtlas.Graph.Description
import CallAtlas.Proofs.GraphBuild
import CallAtlas.Proofs.GraphHistory
import Mathlib.Data.List.Perm.Basic

/-!
# Graphs in order

The graph of a callers map depends on the order in which the entries of the map and the callers in
them are gone through.  What is shown of it does not: the methods and calls of the map are listed in
an order of their own, and a list of given elements in a given order is unique.
-/

namespace CallAtlas

/-- A list of exactly the elements with a property, each of them once, in order. -/
structure Lists {α : Type} (le : α → α → Bool) (p : α → Prop) (l : List α) : Prop where
  mem_iff : ∀ a, a ∈ l ↔ p a
  nodup : l.Nodup
  sorted : l.Pairwise fun a b => le a b = true

theorem Lists.congr {α : Type} {le : α → α → Bool} {p q : α → Prop} {l : List α}
    (lists : Lists le p l) (h : ∀ a, p a ↔ q a) : Lists le q l where
  mem_iff a := (lists.mem_iff a).trans (h a)
  nodup := lists.nodup
  sorted := lists.sorted

theorem Lists.unique {α : Type} {le : α → α → Bool} {p : α → Prop} {l l' : List α}
    (lists : Lists le p l) (lists' : Lists le p l')
    (antisymm : ∀ a b, p a → p b → le a b = true → le b a = true → a = b) : l = l' := by
  have hperm : l.Perm l' := by
    refine (List.perm_ext_iff_of_nodup lists.nodup lists'.nodup).2 fun a => ?_
    rw [lists.mem_iff, lists'.mem_iff]
  refine List.Perm.eq_of_pairwise ?_ lists.sorted lists'.sorted hperm
  intro a b ha hb
  exact antisymm a b ((lists.mem_iff a).1 ha) ((lists'.mem_iff b).1 hb)

namespace CallersMap

/-! ## Maps in another order -/

/-- A caller together with a key that it calls. -/
def Calls (m : CallersMap) (call : String × String) : Prop :=
  ∃ entry ∈ m, call.1 ∈ entry.2 ∧ call.2 = entry.1

/-- The same entries with the same callers, both gone through in another order. -/
def Reordered (m m' : CallersMap) : Prop :=
  ∃ entries : CallersMap, m.Perm entries ∧
    List.Forall₂ (fun entry entry' => entry.1 = entry'.1 ∧ entry.2.Perm entry'.2) entries m'

namespace Reordered

variable {m m' : CallersMap}

/-- Every entry is an entry of the reordered map, up to the order of its callers. -/
theorem exists_entry (reordered : m.Reordered m') {entry : String × List String}
    (hentry : entry ∈ m) : ∃ entry' ∈ m', entry.1 = entry'.1 ∧ entry.2.Perm entry'.2 := by
  obtain ⟨entries, hperm, hsame⟩ := reordered
  have hentry := hperm.mem_iff.1 hentry
  clear hperm
  induction hsame with
  | nil => cases hentry
  | cons hfirst hrest ih =>
      rcases List.mem_cons.1 hentry with rfl | hentry
      · exact ⟨_, List.mem_cons_self, hfirst⟩
      · obtain ⟨entry', hentry', hsame⟩ := ih hentry
        exact ⟨entry', List.mem_cons_of_mem _ hentry', hsame⟩

theorem symm (reordered : m.Reordered m') : m'.Reordered m := by
  obtain ⟨entries, hperm, hsame⟩ := reordered
  obtain ⟨entries', hsame', hperm'⟩ := List.perm_comp_forall₂ hperm hsame
  refine ⟨entries', hperm'.symm, List.Forall₂.flip (hsame'.imp ?_)⟩
  rintro a b ⟨hkey, hcallers⟩
  exact ⟨hkey.symm, hcallers.symm⟩

theorem calls (reordered : m.Reordered m') {call : String × String} (h : m.Calls call) :
    m'.Calls call := by
  obtain ⟨entry, hentry, hcaller, hkey⟩ := h
  obtain ⟨entry', hentry', hsame, hperm⟩ := reordered.exists_entry hentry
  exact ⟨entry', hentry', hperm.mem_iff.1 hcaller, hkey.trans hsame⟩

theorem mentions (reordered : m.Reordered m') {id : String} (h : m.Mentions id) :
    m'.Mentions id := by
  obtain ⟨entry, hentry, hid⟩ := h
  obtain ⟨entry', hentry', hsame, hperm⟩ := reordered.exists_entry hentry
  exact ⟨entry', hentry', hid.imp (·.trans hsame) hperm.mem_iff.1⟩

theorem calls_iff (reordered : m.Reordered m') (call : String × String) :
    m'.Calls call ↔ m.Calls call :=
  ⟨reordered.symm.calls, reordered.calls⟩

theorem mentions_iff (reordered : m.Reordered m') (id : String) : m'.Mentions id ↔ m.Mentions id :=
  ⟨reordered.symm.mentions, reordered.mentions⟩

end Reordered

theorem Calls.mentions {m : CallersMap} {call : String × String} (h : m.Calls call) :
    m.Mentions call.1 ∧ m.Mentions call.2 := by
  obtain ⟨entry, hentry, hcaller, hkey⟩ := h
  exact ⟨⟨entry, hentry, .inr hcaller⟩, ⟨entry, hentry, .inl hkey⟩⟩

end CallersMap

namespace CallGraph

theorem pairLE_iff {a b : String × String} :
    pairLE a b = true ↔ a.1 < b.1 ∨ a.1 = b.1 ∧ a.2 ≤ b.2 := by
  unfold pairLE
  split
  · rename_i heq
    simp [heq, Text.textLE]
  · rename_i hne
    simp [hne, Text.textLE, lt_iff_le_and_ne]

theorem pairLE_trans (a b c : String × String) (hab : pairLE a b = true)
    (hbc : pairLE b c = true) : pairLE a c = true := by
  rw [pairLE_iff] at *
  rcases hab with hab | ⟨hab, hab'⟩
  · rcases hbc with hbc | ⟨hbc, -⟩
    · exact .inl (hab.trans hbc)
    · exact .inl (hbc ▸ hab)
  · rcases hbc with hbc | ⟨hbc, hbc'⟩
    · exact .inl (hab ▸ hbc)
    · exact .inr ⟨hab.trans hbc, hab'.trans hbc'⟩

theorem pairLE_total (a b : String × String) : (pairLE a b || pairLE b a) = true := by
  rw [Bool.or_eq_true, pairLE_iff, pairLE_iff]
  rcases lt_trichotomy a.1 b.1 with h | h | h
  · exact .inl (.inl h)
  · rcases le_total a.2 b.2 with h' | h'
    · exact .inl (.inr ⟨h, h'⟩)
    · exact .inr (.inr ⟨h.symm, h'⟩)
  · exact .inr (.inl h)

theorem pairLE_antisymm {a b : String × String} (hab : pairLE a b = true)
    (hba : pairLE b a = true) : a = b := by
  rw [pairLE_iff] at *
  rcases hab with hab | ⟨hab, hab'⟩
  · rcases hba with hba | ⟨hba, -⟩
    · exact absurd hba hab.asymm
    · exact absurd hba hab.ne'
  · rcases hba with hba | ⟨-, hba'⟩
    · exact absurd hab hba.ne'
    · exact Prod.ext hab (le_antisymm hab' hba')

section Shown

variable (describe : String → Method)

/-- The order in which methods are shown: by name, then by the ID of the node. -/
def shownLE (a b : String) : Bool :=
  pairLE ((describe a).name, nodeId a) ((describe b).name, nodeId b)

/-- The order in which calls are shown: by caller, then by callee. -/
def callLE (a b : String × String) : Bool :=
  if a.1 = b.1 then shownLE describe a.2 b.2 else shownLE describe a.1 b.1

end Shown

def edgeLE (a b : GraphEdge) : Bool := pairLE (a.source, a.target) (b.source, b.target)

section Orders

variable {describe : String → Method} {m : CallersMap}

theorem Distinct.reordered {m' : CallersMap} (distinct : Distinct m) (reordered : m.Reordered m') :
    Distinct m' := by
  intro a b ha hb
  exact distinct a b ((reordered.mentions_iff a).1 ha) ((reordered.mentions_iff b).1 hb)

theorem Distinct.shownLE_antisymm (distinct : Distinct m) (a b : String) (ha : m.Mentions a)
    (hb : m.Mentions b) (hab : shownLE describe a b = true) (hba : shownLE describe b a = true) :
    a = b :=
  distinct a b ha hb (Prod.mk.inj (pairLE_antisymm hab hba)).2

theorem Distinct.callLE_antisymm (distinct : Distinct m) (a b : String × String) (ha : m.Calls a)
    (hb : m.Calls b) (hab : callLE describe a b = true) (hba : callLE describe b a = true) :
    a = b := by
  obtain ⟨hcaller, hcallee⟩ := ha.mentions
  obtain ⟨hcaller', hcallee'⟩ := hb.mentions
  unfold callLE at hab hba
  by_cases hsame : a.1 = b.1
  · rw [if_pos hsame] at hab
    rw [if_pos hsame.symm] at hba
    exact Prod.ext hsame (distinct.shownLE_antisymm a.2 b.2 hcallee hcallee' hab hba)
  · rw [if_neg hsame] at hab
    rw [if_neg (Ne.symm hsame)] at hba
    exact absurd (distinct.shownLE_antisymm a.1 b.1 hcaller hcaller' hab hba) hsame

end Orders

section Building

variable (describe : String → Method) (m : CallersMap)

/-- What building the graph of a map does, in order. -/
def operationsOf : List Operation :=
  m.flatMap fun entry => .addNode (describe entry.1) ::
    entry.2.map fun caller => .addEdge (describe caller) (describe entry.1)

theorem build_eq_after : build describe m = after (operationsOf describe m) := by
  rw [build, after, operationsOf, List.foldl_flatMap]
  refine congrArg (fun step => m.foldl step empty) ?_
  funext g entry
  rw [List.foldl_cons, List.foldl_map]
  rfl

variable {describe m} (described : ∀ id, (describe id).id = id)

include described

theorem mem_methodsOf_operationsOf {id : String} :
    id ∈ methodsOf (operationsOf describe m) ↔ m.Mentions id := by
  rw [mem_methodsOf]
  simp only [operationsOf, List.mem_flatMap, List.mem_cons, List.mem_map]
  constructor
  · rintro ⟨op, ⟨entry, hentry, rfl | ⟨caller, hcaller, rfl⟩⟩, hid⟩
    · exact ⟨entry, hentry, .inl (by simpa [Operation.methods, described] using hid)⟩
    · rcases (by simpa [Operation.methods, described] using hid : id = caller ∨ id = entry.1) with
        rfl | rfl
      · exact ⟨entry, hentry, .inr hcaller⟩
      · exact ⟨entry, hentry, .inl rfl⟩
  · rintro ⟨entry, hentry, rfl | hcaller⟩
    · exact ⟨_, ⟨entry, hentry, .inl rfl⟩, by simp [Operation.methods, described]⟩
    · exact ⟨_, ⟨entry, hentry, .inr ⟨id, hcaller, rfl⟩⟩, by simp [Operation.methods, described]⟩

theorem mem_callsOf_operationsOf {call : String × String} :
    call ∈ callsOf (operationsOf describe m) ↔ m.Calls call := by
  rw [mem_callsOf]
  simp only [operationsOf, List.mem_flatMap, List.mem_cons, List.mem_map]
  constructor
  · rintro ⟨op, ⟨entry, hentry, rfl | ⟨caller, hcaller, rfl⟩⟩, hcall⟩
    · cases hcall
    · obtain rfl : call = (caller, entry.1) := by
        simpa [Operation.calls, described] using hcall
      exact ⟨entry, hentry, hcaller, rfl⟩
  · rintro ⟨entry, hentry, hcaller, hkey⟩
    refine ⟨_, ⟨entry, hentry, .inr ⟨call.1, hcaller, rfl⟩⟩, ?_⟩
    simp [Operation.calls, described, ← hkey]

/-- All copies in the graph of a map hold the methods and calls of the map. -/
theorem build_keeps (distinct : Distinct m) :
    Apart (methodsOf (operationsOf describe m)) ∧
      (build describe m).Keeps (methodsOf (operationsOf describe m))
        (callsOf (operationsOf describe m)) := by
  have apart : Apart (methodsOf (operationsOf describe m)) := by
    intro a ha b hb heq
    exact distinct a b ((mem_methodsOf_operationsOf described).1 ha)
      ((mem_methodsOf_operationsOf described).1 hb) heq
  refine ⟨apart, ?_⟩
  rw [build_eq_after]
  exact after_keeps _ apart

end Building

/-! ## What is shown -/

/-- What is shown of a node: everything but its edges. -/
def face (n : GraphNode) : String × Method × Option Point := (n.id, n.method, n.position)

/-- A graph as it is written out. -/
structure Listing where
  nodes : List (String × Method × Option Point)
  edges : List GraphEdge

def listing (g : CallGraph) : Listing := ⟨g.sortedNodes.map face, g.sortedEdges⟩

/-- A graph of described methods without a layout. -/
def Bare (describe : String → Method) (g : CallGraph) : Prop :=
  ∀ n ∈ g.nodes, n.method = describe n.method.id ∧ n.position = none

section Bare

variable {describe : String → Method} (described : ∀ id, (describe id).id = id) {g : CallGraph}

include described

theorem Bare.withNode (bare : g.Bare describe) (id : String) :
    (g.withNode (describe id)).2.Bare describe := by
  unfold CallGraph.withNode
  split
  · exact bare
  · intro n hn
    rcases List.mem_append.1 hn with hn | hn
    · exact bare n hn
    · obtain rfl := List.mem_singleton.1 hn
      exact ⟨(congrArg describe (described id)).symm, rfl⟩

theorem Bare.addEdge (bare : g.Bare describe) (source target : String) :
    (g.addEdge (describe source) (describe target)).Bare describe := by
  have hnodes := (bare.withNode described source).withNode described target
  unfold CallGraph.addEdge CallGraph.withEdge
  dsimp only
  split
  · exact hnodes
  · intro n hn
    obtain ⟨old, hold, rfl⟩ := List.mem_map.1 hn
    exact hnodes old hold

theorem build_bare (m : CallersMap) : (build describe m).Bare describe := by
  refine List.foldlRecOn m (addEntry describe) (by simp [Bare, empty]) ?_
  intro g bare entry _
  refine List.foldlRecOn entry.2 _ (bare.withNode described entry.1) ?_
  intro g bare caller _
  exact bare.addEdge described caller entry.1

end Bare

namespace Keeps

variable {describe : String → Method} {g : CallGraph} {ids : List String}
  {calls : List (String × String)}

theorem face_eq (keeps : g.Keeps ids calls) (bare : g.Bare describe) {n : GraphNode}
    (hn : n ∈ g.nodes) : face n = (nodeId n.method.id, describe n.method.id, none) := by
  obtain ⟨hmethod, hposition⟩ := bare n hn
  rw [face, keeps.tidy.node_id n hn, hposition, ← hmethod]

/-- Sorted nodes stand in the order in which their methods are shown. -/
theorem sortNodes_sorted (keeps : g.Keeps ids calls) (bare : g.Bare describe)
    {nodes : List GraphNode} (hnodes : ∀ n ∈ nodes, n ∈ g.nodes) :
    ((sortNodes nodes).map (·.method.id)).Pairwise fun a b => shownLE describe a b = true := by
  have hkey : ∀ n ∈ g.nodes, sortKey n = ((describe n.method.id).name, nodeId n.method.id) := by
    intro n hn
    rw [sortKey, keeps.tidy.node_id n hn, ← (bare n hn).1]
  have hsorted : (sortNodes nodes).Pairwise fun a b => pairLE (sortKey a) (sortKey b) = true :=
    List.pairwise_mergeSort (fun a b c => pairLE_trans (sortKey a) (sortKey b) (sortKey c))
      (fun a b => pairLE_total (sortKey a) (sortKey b)) nodes
  refine List.pairwise_map.2 (hsorted.imp_of_mem ?_)
  intro a b ha hb hle
  rwa [hkey a (hnodes a (List.mem_mergeSort.1 ha)), hkey b (hnodes b (List.mem_mergeSort.1 hb))]
    at hle

theorem sortedNodes_lists (keeps : g.Keeps ids calls) (bare : g.Bare describe) :
    Lists (shownLE describe) (· ∈ ids) (g.sortedNodes.map (·.method.id)) := by
  have hperm : (g.sortedNodes.map (·.method.id)).Perm ids := by
    rw [← keeps.methodIds_eq]
    exact (List.mergeSort_perm g.nodes _).map _
  exact ⟨fun id => hperm.mem_iff, hperm.nodup_iff.2 keeps.ids_nodup,
    keeps.sortNodes_sorted bare fun n hn => hn⟩

/-- The edges that leave a node are those for the calls of its method. -/
theorem mem_leaving (keeps : g.Keeps ids calls) (apart : Apart ids) {n : GraphNode}
    (hn : n ∈ g.nodes) {e : GraphEdge} :
    e ∈ n.leaving ↔ ∃ t, (n.method.id, t) ∈ calls ∧ e = edgeFor (n.method.id, t) := by
  rw [keeps.leaving_eq n hn, List.mem_filter, decide_eq_true_eq, keeps.mem_edges,
    keeps.tidy.node_id n hn]
  constructor
  · rintro ⟨⟨⟨caller, t⟩, hcall, rfl⟩, hsource⟩
    obtain rfl : caller = n.method.id :=
      apart (keeps.ends_mem _ hcall).1 (keeps.mem_ids hn) hsource
    exact ⟨t, hcall, rfl⟩
  · rintro ⟨t, hcall, rfl⟩
    exact ⟨⟨_, hcall, rfl⟩, rfl⟩

theorem leaving_targets (keeps : g.Keeps ids calls) (apart : Apart ids) {n : GraphNode}
    (hn : n ∈ g.nodes) : n.leaving.Pairwise fun e e' => e.target ≠ e'.target := by
  have hnodup : n.leaving.Nodup := by
    rw [keeps.leaving_eq n hn]
    exact (keeps.edges_nodup apart).filter _
  refine hnodup.imp_of_mem ?_
  intro e e' he he' hne htarget
  obtain ⟨t, ht, rfl⟩ := (keeps.mem_leaving apart hn).1 he
  obtain ⟨t', ht', rfl⟩ := (keeps.mem_leaving apart hn).1 he'
  obtain rfl : t = t' := apart (keeps.ends_mem _ ht).2 (keeps.ends_mem _ ht').2 htarget
  exact hne rfl

theorem sortedCallees_lists (keeps : g.Keeps ids calls) (apart : Apart ids)
    (bare : g.Bare describe) {n : GraphNode} (hn : n ∈ g.nodes) :
    Lists (shownLE describe) (fun t => (n.method.id, t) ∈ calls)
      ((Description.sortedCallees g n).map (·.method.id)) := by
  have hmem : ∀ callee, callee ∈ Description.sortedCallees g n ↔
      ∃ e ∈ n.leaving, g.node? e.target = some callee := by
    intro callee
    rw [Description.sortedCallees, sortNodes, List.mem_mergeSort, List.mem_filterMap]
  constructor
  case mem_iff =>
    intro t
    rw [List.mem_map]
    constructor
    · rintro ⟨callee, hcallee, rfl⟩
      obtain ⟨e, he, hnode⟩ := (hmem callee).1 hcallee
      obtain ⟨t, ht, rfl⟩ := (keeps.mem_leaving apart hn).1 he
      have hid : nodeId callee.method.id = nodeId t :=
        (keeps.tidy.node_id callee (mem_of_node? hnode)).symm.trans (node?_id hnode)
      rwa [apart (keeps.mem_ids (mem_of_node? hnode)) (keeps.ends_mem _ ht).2 hid]
    · intro ht
      obtain ⟨callee, hcallee, rfl⟩ := keeps.exists_node (keeps.ends_mem _ ht).2
      refine ⟨callee, (hmem callee).2 ⟨_, (keeps.mem_leaving apart hn).2 ⟨_, ht, rfl⟩, ?_⟩, rfl⟩
      rw [← keeps.node?_eq apart hcallee, keeps.tidy.node_id callee hcallee]
      rfl
  case nodup =>
    have hperm := List.mergeSort_perm (n.leaving.filterMap fun e => g.node? e.target)
      fun a b => pairLE (sortKey a) (sortKey b)
    refine (hperm.map (·.method.id)).nodup_iff.2 (List.pairwise_map.2 ?_)
    refine (keeps.leaving_targets apart hn).filterMap _ ?_
    intro e e' hne callee hcallee callee' hcallee' hsame
    refine hne ?_
    rw [← node?_id hcallee, ← node?_id hcallee', keeps.tidy.node_id _ (mem_of_node? hcallee),
      keeps.tidy.node_id _ (mem_of_node? hcallee'), hsame]
  case sorted =>
    refine keeps.sortNodes_sorted bare ?_
    intro callee hcallee
    obtain ⟨e, -, hnode⟩ := List.mem_filterMap.1 hcallee
    exact mem_of_node? hnode

/-- The calls of a graph, node by node. -/
theorem shownCalls_lists (keeps : g.Keeps ids calls) (apart : Apart ids)
    (bare : g.Bare describe) :
    Lists (callLE describe) (· ∈ calls) (g.sortedNodes.flatMap fun n =>
      (Description.sortedCallees g n).map fun callee => (n.method.id, callee.method.id)) := by
  have hnode : ∀ n ∈ g.sortedNodes, n ∈ g.nodes := fun n hn => List.mem_mergeSort.1 hn
  have hnodes := keeps.sortedNodes_lists bare
  have hcallees : ∀ n ∈ g.sortedNodes, Lists (shownLE describe) (fun t => (n.method.id, t) ∈ calls)
      ((Description.sortedCallees g n).map (·.method.id)) :=
    fun n hn => keeps.sortedCallees_lists apart bare (hnode n hn)
  -- Calls of different nodes have different callers, so the order of the nodes decides.
  have hcaller : ∀ n call, call ∈ (Description.sortedCallees g n).map
      (fun callee => (n.method.id, callee.method.id)) → call.1 = n.method.id := by
    intro n call hcall
    obtain ⟨callee, -, rfl⟩ := List.mem_map.1 hcall
    rfl
  have hne : g.sortedNodes.Pairwise fun n n' => n.method.id ≠ n'.method.id :=
    List.pairwise_map.1 hnodes.nodup
  constructor
  case mem_iff =>
    rintro ⟨s, t⟩
    rw [List.mem_flatMap]
    constructor
    · rintro ⟨n, hn, hcall⟩
      obtain ⟨callee, hcallee, heq⟩ := List.mem_map.1 hcall
      obtain ⟨rfl, rfl⟩ := Prod.mk.inj heq
      exact ((hcallees n hn).mem_iff _).1 (List.mem_map_of_mem hcallee)
    · intro hcall
      obtain ⟨n, hn, rfl⟩ := keeps.exists_node (keeps.ends_mem _ hcall).1
      have hn : n ∈ g.sortedNodes := List.mem_mergeSort.2 hn
      obtain ⟨callee, hcallee, rfl⟩ := List.mem_map.1 (((hcallees n hn).mem_iff t).2 hcall)
      exact ⟨n, hn, List.mem_map_of_mem hcallee⟩
  case nodup =>
    refine List.pairwise_flatMap.2 ⟨?_, hne.imp ?_⟩
    · intro n hn
      refine List.pairwise_map.2 ((List.pairwise_map.1 (hcallees n hn).nodup).imp ?_)
      intro a b hab heq
      exact hab (Prod.mk.inj heq).2
    · rintro n n' hne call hcall _ hcall' rfl
      exact hne ((hcaller n call hcall).symm.trans (hcaller n' call hcall'))
  case sorted =>
    refine List.pairwise_flatMap.2 ⟨?_, ((List.pairwise_map.1 hnodes.sorted).and hne).imp ?_⟩
    · intro n hn
      refine List.pairwise_map.2 ((List.pairwise_map.1 (hcallees n hn).sorted).imp ?_)
      intro a b hab
      rwa [callLE, if_pos rfl]
    · rintro n n' ⟨hle, hne⟩ call hcall call' hcall'
      rw [← hcaller n call hcall, ← hcaller n' call' hcall'] at hle hne
      rwa [callLE, if_neg hne]

theorem sortedEdges_lists (keeps : g.Keeps ids calls) (apart : Apart ids) :
    Lists edgeLE (fun e => ∃ call ∈ calls, edgeFor call = e) g.sortedEdges := by
  constructor
  case mem_iff =>
    intro e
    rw [sortedEdges, List.mem_mergeSort, keeps.mem_listEdges, keeps.mem_edges]
  case nodup => exact (List.mergeSort_perm g.listEdges _).nodup_iff.2 (keeps.listEdges_nodup apart)
  case sorted =>
    have htrans : ∀ a b c, edgeLE a b = true → edgeLE b c = true → edgeLE a c = true :=
      fun a b c => pairLE_trans (a.source, a.target) (b.source, b.target) (c.source, c.target)
    have htotal : ∀ a b, (edgeLE a b || edgeLE b a) = true :=
      fun a b => pairLE_total (a.source, a.target) (b.source, b.target)
    exact List.pairwise_mergeSort htrans htotal g.listEdges

end Keeps

/-- A graph shows the methods and the calls of a map, each of them once and in order, both when it
is written out and in its description. -/
structure Shows (g : CallGraph) (describe : String → Method) (m : CallersMap) : Prop where
  nodes : ∃ ids, Lists (shownLE describe) m.Mentions ids ∧
    g.listing.nodes = ids.map (fun id => (nodeId id, describe id, none)) ∧
    ∀ rankDir, (Description.ofGraph g rankDir).nodes =
      ids.map fun id => (nodeId id, (describe id).name)
  edges : Lists edgeLE (fun e => ∃ call, m.Calls call ∧ edgeFor call = e) g.listing.edges
  calls : ∃ calls, Lists (callLE describe) m.Calls calls ∧
    ∀ rankDir, (Description.ofGraph g rankDir).edges =
      calls.map fun call => (nodeId call.1, nodeId call.2)
  /-- No node and no edge is declared twice. -/
  declared_nodup : ∀ rankDir, ((Description.ofGraph g rankDir).nodes.map (·.1)).Nodup ∧
    (Description.ofGraph g rankDir).edges.Nodup

section Shows

variable {describe : String → Method} {m : CallersMap} {g g' : CallGraph}

theorem build_shows (described : ∀ id, (describe id).id = id) (distinct : Distinct m) :
    (build describe m).Shows describe m := by
  obtain ⟨apart, keeps⟩ := build_keeps described distinct
  have bare := build_bare described m
  have hnode : ∀ n ∈ (build describe m).sortedNodes, n ∈ (build describe m).nodes :=
    fun n hn => List.mem_mergeSort.1 hn
  have hnodes := (keeps.sortedNodes_lists bare).congr fun id => mem_methodsOf_operationsOf described
  have hshown := (keeps.shownCalls_lists apart bare).congr
    fun call => mem_callsOf_operationsOf described
  have hdeclared : ∀ rankDir, (Description.ofGraph (build describe m) rankDir).nodes =
      ((build describe m).sortedNodes.map (·.method.id)).map
        fun id => (nodeId id, (describe id).name) := by
    intro rankDir
    rw [List.map_map]
    refine List.map_congr_left fun n hn => ?_
    rw [Function.comp_apply, keeps.tidy.node_id n (hnode n hn), ← (bare n (hnode n hn)).1]
  have hdrawn : ∀ rankDir, (Description.ofGraph (build describe m) rankDir).edges =
      ((build describe m).sortedNodes.flatMap fun n =>
        (Description.sortedCallees (build describe m) n).map fun callee =>
          (n.method.id, callee.method.id)).map fun call => (nodeId call.1, nodeId call.2) := by
    intro rankDir
    rw [List.map_flatMap]
    refine List.flatMap_congr fun n hn => ?_
    rw [List.map_map]
    refine List.map_congr_left fun callee hcallee => ?_
    obtain ⟨e, -, hcallee⟩ := List.mem_filterMap.1 (List.mem_mergeSort.1 hcallee)
    rw [Function.comp_apply, keeps.tidy.node_id n (hnode n hn),
      keeps.tidy.node_id callee (mem_of_node? hcallee)]
  refine ⟨⟨_, hnodes, ?_, hdeclared⟩, ?_, ⟨_, hshown, hdrawn⟩, ?_⟩
  · rw [listing, List.map_map]
    exact List.map_congr_left fun n hn => keeps.face_eq bare (hnode n hn)
  · refine (keeps.sortedEdges_lists apart).congr fun e => ?_
    simp only [mem_callsOf_operationsOf described]
  · intro rankDir
    rw [hdeclared, hdrawn, List.map_map]
    constructor
    · refine hnodes.nodup.map_on fun a ha b hb heq => ?_
      exact distinct a b ((hnodes.mem_iff a).1 ha) ((hnodes.mem_iff b).1 hb) heq
    · refine hshown.nodup.map_on fun a ha b hb heq => ?_
      obtain ⟨hsource, htarget⟩ := Prod.mk.inj heq
      obtain ⟨ha, ha'⟩ := ((hshown.mem_iff a).1 ha).mentions
      obtain ⟨hb, hb'⟩ := ((hshown.mem_iff b).1 hb).mentions
      exact Prod.ext (distinct a.1 b.1 ha hb hsource) (distinct a.2 b.2 ha' hb' htarget)

theorem Shows.reordered {m' : CallersMap} (shows' : g.Shows describe m')
    (reordered : m.Reordered m') : g.Shows describe m := by
  obtain ⟨⟨ids, hids, hlisted, hdeclared⟩, hedges, ⟨calls, hcalls, hdrawn⟩, hnodup⟩ := shows'
  refine ⟨⟨ids, hids.congr reordered.mentions_iff, hlisted, hdeclared⟩, ?_,
    ⟨calls, hcalls.congr reordered.calls_iff, hdrawn⟩, hnodup⟩
  refine hedges.congr fun e => ?_
  simp only [reordered.calls_iff]

/-- What is shown of a map is the same in all graphs that show it. -/
theorem Shows.unique (distinct : Distinct m) (first : g.Shows describe m)
    (second : g'.Shows describe m) :
    g.listing = g'.listing ∧
      ∀ rankDir, Description.ofGraph g rankDir = Description.ofGraph g' rankDir := by
  obtain ⟨⟨ids, hids, hlisted, hdeclared⟩, hedges, ⟨calls, hcalls, hdrawn⟩, -⟩ := first
  obtain ⟨⟨ids', hids', hlisted', hdeclared'⟩, hedges', ⟨calls', hcalls', hdrawn'⟩, -⟩ := second
  obtain rfl := hids.unique hids' distinct.shownLE_antisymm
  obtain rfl := hcalls.unique hcalls' distinct.callLE_antisymm
  have hsame : g.listing.edges = g'.listing.edges := by
    refine hedges.unique hedges' ?_
    rintro _ _ ⟨call, -, rfl⟩ ⟨call', -, rfl⟩ hle hle'
    obtain ⟨hsource, htarget⟩ := Prod.mk.inj (pairLE_antisymm hle hle')
    exact congrArg₂ GraphEdge.between hsource htarget
  constructor
  · show Listing.mk g.listing.nodes g.listing.edges = Listing.mk g'.listing.nodes g'.listing.edges
    rw [hlisted, hlisted', hsame]
  · intro rankDir
    show Description.mk rankDir (Description.ofGraph g rankDir).nodes
        (Description.ofGraph g rankDir).edges =
      Description.mk rankDir (Description.ofGraph g' rankDir).nodes
        (Description.ofGraph g' rankDir).edges
    rw [hdeclared, hdeclared', hdrawn, hdrawn']

/-- The graph of a callers map has one node for each method in the map and one edge for each pair of
a caller and a key.  What is written out of it and what a layout program is told of it name each of
them once, in an order that does not depend on the order in which the map was gone through. -/
theorem build_order_independent (described : ∀ id, (describe id).id = id)
    (wellFormed : m.WellFormed) (distinct : Distinct m) :
    ((∀ id, id ∈ (build describe m).methodIds ↔ m.Mentions id) ∧
      (build describe m).methodIds.Nodup) ∧
    ((build describe m).edges.Perm (edgesOf m) ∧ (edgesOf m).Nodup ∧
      (build describe m).edges.length = m.count) ∧
    (build describe m).Shows describe m ∧
    ∀ m', m.Reordered m' →
      (build describe m').listing = (build describe m).listing ∧
      ∀ rankDir, Description.ofGraph (build describe m') rankDir =
        Description.ofGraph (build describe m) rankDir := by
  have hholds := build_holds described m
  have hshows := build_shows described distinct
  refine ⟨⟨hholds.mem_methodIds, hholds.methodIds_nodup⟩,
    ⟨edges_build_perm described wellFormed distinct, edgesOf_nodup wellFormed distinct,
      length_edges_build described wellFormed distinct⟩, hshows, ?_⟩
  intro m' reordered
  have hshows' := build_shows described (distinct.reordered reordered)
  exact (hshows'.reordered reordered).unique distinct hshows

end Shows

def crossing : CallersMap := [("a.py::g", ["a.py::f", "a.py::g"]), ("a.py::f", ["a.py::g"])]

def crossing' : CallersMap := [("a.py::f", ["a.py::g"]), ("a.py::g", ["a.py::g", "a.py::f"])]

/-- The graphs of the crossing calls are different and are shown as the same. -/
theorem build_order_independent_crossing :
    crossing.Reordered crossing' ∧
    (build Method.ofId crossing).methodIds ≠ (build Method.ofId crossing').methodIds ∧
    (build Method.ofId crossing).edges.length = 3 ∧
    (build Method.ofId crossing').listing = (build Method.ofId crossing).listing ∧
    Description.ofGraph (build Method.ofId crossing') "LR" =
      Description.ofGraph (build Method.ofId crossing) "LR" := by
  have hreordered : crossing.Reordered crossing' := by
    refine ⟨[("a.py::f", ["a.py::g"]), ("a.py::g", ["a.py::f", "a.py::g"])], .swap .., ?_⟩
    exact .cons ⟨rfl, .refl _⟩ (.cons ⟨rfl, .swap ..⟩ .nil)
  have hid : ∀ id, (Method.ofId id).id = id := fun id => rfl
  have hwellFormed : crossing.WellFormed := ⟨by decide, by simp [crossing]⟩
  have hdistinct : Distinct crossing := by
    refine distinct_of_pair (by decide +kernel : nodeId "a.py::f" ≠ nodeId "a.py::g") ?_
    intro id hid
    simp only [CallersMap.Mentions, crossing, List.mem_cons, List.not_mem_nil, or_false] at hid
    grind
  obtain ⟨-, ⟨-, -, hcount⟩, -, hsame⟩ :=
    build_order_independent hid hwellFormed hdistinct
  obtain ⟨hlisting, hdescription⟩ := hsame crossing' hreordered
  refine ⟨hreordered, ?_, hcount, hlisting, hdescription "LR"⟩
  rw [(build_keeps hid hdistinct).2.methodIds_eq,
    (build_keeps hid (hdistinct.reordered hreordered)).2.methodIds_eq]
  decide +kernel

end CallGraph

end CallAtlas
