import CallAtlas.Proofs.Expansion
import CallAtlas.Traversal.Focus

/-!
# Callers maps are closed

Every caller in a callers map that a traversal gathers is a key of the map, whether the map is that
of a scope or that of what is around one method.  The keys around a method are what is reachable from
it.
-/

namespace CallAtlas

open Project (SearchScope)

namespace Traversal

section Scope

variable {r : Resolver} {scope : SearchScope} {pool : Pool} {w w' : Walk}

theorem directCallers_nodup {known : Option (List String)} {id : String} {callers : List String}
    (h : r.directCallers scope known id = .ok callers) : callers.Nodup := by
  unfold Resolver.directCallers at h
  split at h
  · cases h
  · obtain rfl := Except.ok.inj h
    exact nodup_eraseDups _

theorem mem_of_containing? {ids : List String} {site : Site} {m : String}
    (h : r.containing? (some ids) site = some m) : m ∈ ids := by
  unfold Resolver.containing? nearest? at h
  simpa using List.find?_some h

/-- The map of a scope has the methods in the scope as its keys, each with its direct callers among
them. -/
theorem scopeMap_ok {m : CallersMap} (h : scopeMap r scope pool w = (.ok m, w')) :
    ∃ ids, r.methodsIn scope = .ok ids ∧ m.WellFormed ∧ (∀ id, id ∈ m.keys ↔ id ∈ ids) ∧
      ∀ id ∈ m.keys, r.directCallers scope (some ids) id = .ok (m.callersOf id) := by
  unfold scopeMap at h
  split at h
  · cases h
  · rename_i ids hids
    obtain ⟨hkeys, hentries⟩ := gather_ok h
    have hwellFormed : m.WellFormed := by
      refine ⟨?_, fun entry hentry => directCallers_nodup (hentries entry hentry)⟩
      rw [CallersMap.keys, hkeys]
      exact Text.sortedTexts_nodup ids
    refine ⟨ids, hids, hwellFormed, ?_, ?_⟩
    · intro id
      rw [CallersMap.keys, hkeys, Text.mem_sortedTexts]
    · intro id hid
      obtain ⟨entry, hentry, rfl⟩ := List.mem_map.1 hid
      rw [hwellFormed.callersOf_eq hentry]
      exact hentries entry hentry

theorem scopeMap_closed {m : CallersMap} (h : scopeMap r scope pool w = (.ok m, w')) :
    m.WellFormed ∧ m.Closed := by
  obtain ⟨ids, -, hwellFormed, hkeys, hcallers⟩ := scopeMap_ok h
  refine ⟨hwellFormed, ?_⟩
  intro k x hx
  have hk := CallersMap.mem_keys_of_mem_callersOf hx
  obtain ⟨sites, -, site, -, hsite⟩ := (Resolver.mem_directCallers (hcallers k hk)).1 hx
  exact (hkeys x).2 (mem_of_containing? hsite)

/-- The map of a scope is gathered unless a lookup has no answer. -/
theorem scopeMap_calm (pool : Pool) (calm : w.Calm) {ids : List String}
    (hids : r.methodsIn scope = .ok ids)
    (answers : ∀ id ∈ ids, ∃ callers, r.directCallers scope (some ids) id = .ok callers) :
    ∃ m w', scopeMap r scope pool w = (.ok m, w') := by
  obtain ⟨m, w', hgather, -⟩ := gather_calm pool calm answers
  refine ⟨m, w', ?_⟩
  rw [scopeMap, hids]
  exact hgather

end Scope

variable {r : Resolver} {scope : SearchScope} {direction : Direction} {pool : Pool}
  {focus : String} {ends : r.EndsAround scope direction pool focus} {w w' : Walk}

theorem focusMap_ok {m : CallersMap}
    (h : r.focusMap scope direction pool focus ends w = (.ok m, w')) :
    ∃ callers callees : CallersMap,
      (r.callersAround scope direction pool focus ends w).result = .ok callers ∧
      (r.calleesAround scope direction pool focus ends
        (r.callersAround scope direction pool focus ends w).walk).result = .ok callees ∧
      m = CallersMap.mergeAll [[(focus, [])], callers, CallersMap.invert callees] := by
  unfold Resolver.focusMap at h
  dsimp only at h
  split at h
  · cases h
  · rename_i callers hcallers
    split at h
    · cases h
    · rename_i callees hcallees
      exact ⟨callers, callees, hcallers, hcallees, (Except.ok.inj (Prod.mk.inj h).1).symm⟩

theorem mem_keys_around {callers callees : CallersMap} {k : String} :
    k ∈ (CallersMap.mergeAll [[(focus, [])], callers, CallersMap.invert callees]).keys ↔
      k = focus ∨ k ∈ callers.keys ∨ ∃ entry ∈ callees, k ∈ entry.2 := by
  simp only [CallersMap.mergeAll, List.foldl_cons, List.foldl_nil, CallersMap.mem_keys_merge,
    CallersMap.mem_keys_invert]
  simp [CallersMap.keys, or_assoc]

theorem mem_callersOf_around {callers callees : CallersMap} (hcallers : callers.WellFormed)
    (hcallees : callees.WellFormed) {k x : String} :
    x ∈ (CallersMap.mergeAll [[(focus, [])], callers, CallersMap.invert callees]).callersOf k ↔
      x ∈ callers.callersOf k ∨ k ∈ callees.callersOf x := by
  simp only [CallersMap.mergeAll, List.foldl_cons, List.foldl_nil, CallersMap.mem_callersOf_merge]
  rw [← hcallers.mem_callersOf_iff, ← (CallersMap.WellFormed.invert callees).mem_callersOf_iff,
    CallersMap.mem_callersOf_invert, hcallees.mem_callersOf_iff]
  simp [CallersMap.callersOf]

/-- Upstream, an expansion finds the callers of everything that it reaches. -/
theorem callersAround_found {callers : CallersMap}
    (h : (r.callersAround scope direction pool focus ends w).result = .ok callers) :
    callers.WellFormed ∧
      (∀ k, k ∈ callers.keys ↔ direction.includesUpstream = true ∧
        Reachable (r.directCallers scope none) [focus] [] k) ∧
      ∀ k x, x ∈ callers.callersOf k ↔ direction.includesUpstream = true ∧
        Reachable (r.directCallers scope none) [focus] [] k ∧
        Neighbour (r.directCallers scope none) k x := by
  unfold Resolver.callersAround at h
  split at h
  · rename_i asked
    obtain ⟨hwellFormed, hkeys, -⟩ := expand_found _ h
    refine ⟨hwellFormed, fun k => ?_, fun k x => ?_⟩
    · rw [hkeys, and_iff_right asked]
    · rw [expand_neighbours _ h, and_iff_right asked]
  · rename_i asked
    obtain rfl := Except.ok.inj h
    exact ⟨.nil, by simp [asked, CallersMap.keys], by simp [asked, CallersMap.callersOf]⟩

/-- Downstream, an expansion finds the callees of everything that it reaches. -/
theorem calleesAround_found {callees : CallersMap}
    (h : (r.calleesAround scope direction pool focus ends w).result = .ok callees) :
    callees.WellFormed ∧
      ∀ k x, x ∈ callees.callersOf k ↔ direction.includesDownstream = true ∧
        Reachable r.callees [focus] [] k ∧ Neighbour r.callees k x := by
  unfold Resolver.calleesAround at h
  split at h
  · rename_i asked
    refine ⟨(expand_found _ h).1, fun k x => ?_⟩
    rw [expand_neighbours _ h, and_iff_right asked]
  · rename_i asked
    obtain rfl := Except.ok.inj h
    exact ⟨.nil, by simp [asked, CallersMap.callersOf]⟩

/-- What is reachable from one method is the method itself and the neighbours of what is reachable
from it. -/
theorem reachable_iff_neighbour {lookup : Lookup} {k : String} :
    Reachable lookup [focus] [] k ↔
      k = focus ∨ ∃ via, Reachable lookup [focus] [] via ∧ Neighbour lookup via k := by
  constructor
  · rintro ⟨n, path⟩
    cases path with
    | start mem => exact .inl (List.mem_singleton.1 mem)
    | step path found mem _ => exact .inr ⟨_, ⟨_, path⟩, _, found, mem⟩
  · rintro (rfl | ⟨via, ⟨n, path⟩, ids, found, mem⟩)
    · exact ⟨0, .start (List.mem_singleton_self k)⟩
    · exact ⟨n + 1, .step path found mem List.not_mem_nil⟩

/-- The callers around a method: those that upstream lookups give for what is reached upstream, and
whatever is reached downstream and has the key as a callee. -/
theorem mem_callersOf_focusMap {m : CallersMap}
    (h : r.focusMap scope direction pool focus ends w = (.ok m, w')) (k x : String) :
    x ∈ m.callersOf k ↔
      (direction.includesUpstream = true ∧ Reachable (r.directCallers scope none) [focus] [] k ∧
        Neighbour (r.directCallers scope none) k x) ∨
      (direction.includesDownstream = true ∧ Reachable r.callees [focus] [] x ∧
        Neighbour r.callees x k) := by
  obtain ⟨callers, callees, hcallers, hcallees, rfl⟩ := focusMap_ok h
  obtain ⟨hwellFormed, -, hup⟩ := callersAround_found hcallers
  obtain ⟨hwellFormed', hdown⟩ := calleesAround_found hcallees
  rw [mem_callersOf_around hwellFormed hwellFormed', hup, hdown]

/-- The keys around a method: the method itself, and what is reachable from it in the directions that
are asked for. -/
theorem mem_keys_focusMap {m : CallersMap}
    (h : r.focusMap scope direction pool focus ends w = (.ok m, w')) (k : String) :
    k ∈ m.keys ↔ k = focus ∨
      (direction.includesUpstream = true ∧ Reachable (r.directCallers scope none) [focus] [] k) ∨
      (direction.includesDownstream = true ∧ Reachable r.callees [focus] [] k) := by
  obtain ⟨callers, callees, hcallers, hcallees, rfl⟩ := focusMap_ok h
  obtain ⟨-, hkeys, -⟩ := callersAround_found hcallers
  obtain ⟨hwellFormed, hdown⟩ := calleesAround_found hcallees
  have hmentioned : (∃ entry ∈ callees, k ∈ entry.2) ↔ ∃ via, k ∈ callees.callersOf via := by
    constructor
    · rintro ⟨entry, hentry, hk⟩
      exact ⟨entry.1, hwellFormed.mem_callersOf_iff.2 ⟨entry, hentry, rfl, hk⟩⟩
    · rintro ⟨via, hk⟩
      obtain ⟨entry, hentry, -, hk⟩ := hwellFormed.mem_callersOf_iff.1 hk
      exact ⟨entry, hentry, hk⟩
  rw [mem_keys_around, hkeys, hmentioned]
  refine or_congr_right' fun hk => or_congr_right ?_
  simp only [hdown, exists_and_left]
  refine and_congr_right fun _ => ?_
  rw [reachable_iff_neighbour, or_iff_right hk]

theorem focusMap_closed {m : CallersMap}
    (h : r.focusMap scope direction pool focus ends w = (.ok m, w')) :
    m.WellFormed ∧ m.Closed := by
  constructor
  · obtain ⟨callers, callees, -, -, rfl⟩ := focusMap_ok h
    exact .mergeAll _
  · intro k x hx
    rw [mem_keys_focusMap h]
    rcases (mem_callersOf_focusMap h k x).1 hx with ⟨asked, hk, hop⟩ | ⟨asked, hx, -⟩
    · exact .inr (.inl ⟨asked, reachable_iff_neighbour.2 (.inr ⟨k, hk, hop⟩)⟩)
    · exact .inr (.inr ⟨asked, hx⟩)

/-- Whatever a direction asks for around a method can be looked up. -/
structure AnswersAround (r : Resolver) (scope : SearchScope) (direction : Direction)
    (focus : String) : Prop where
  callers : direction.includesUpstream = true →
    ∀ id, Relation.ReflTransGen (Neighbour (r.directCallers scope none)) focus id →
      ∃ callers, r.directCallers scope none id = .ok callers
  callees : direction.includesDownstream = true →
    ∀ id, Relation.ReflTransGen (Neighbour r.callees) focus id →
      ∃ callees, r.callees id = .ok callees

/-- The map around a method is gathered unless a lookup that is asked for has no answer. -/
theorem focusMap_of_answers (ends : r.EndsAround scope direction pool focus) (calm : w.Calm)
    (answers : AnswersAround r scope direction focus) :
    ∃ m w', r.focusMap scope direction pool focus ends w = (.ok m, w') := by
  have hup : ∃ callers, (r.callersAround scope direction pool focus ends w).result = .ok callers ∧
      (r.callersAround scope direction pool focus ends w).walk.Calm := by
    unfold Resolver.callersAround
    split
    · rename_i asked
      exact expand_calm calm _ fun id hid => answers.callers asked id (reachable_iff_chain.1 hid)
    · exact ⟨[], rfl, calm⟩
  obtain ⟨callers, hcallers, calm'⟩ := hup
  have hdown : ∃ callees, (r.calleesAround scope direction pool focus ends
      (r.callersAround scope direction pool focus ends w).walk).result = .ok callees := by
    unfold Resolver.calleesAround
    split
    · rename_i asked
      obtain ⟨callees, hcallees, -⟩ := expand_calm calm' (ends.callees asked _) fun id hid =>
        answers.callees asked id (reachable_iff_chain.1 hid)
      exact ⟨callees, hcallees⟩
    · exact ⟨[], rfl⟩
  obtain ⟨callees, hcallees⟩ := hdown
  unfold Resolver.focusMap
  dsimp only
  rw [hcallers]
  dsimp only
  rw [hcallees]
  exact ⟨_, _, rfl⟩

theorem focusMap_calm (r : FiniteResolver) (scope : SearchScope) (direction : Direction)
    (pool : Pool) (focus : String) (calm : w.Calm)
    (callersAnswer : ∀ id, ∃ callers, r.directCallers scope none id = .ok callers)
    (calleesAnswer : ∀ id, ∃ callees, r.callees id = .ok callees) :
    ∃ m w', r.focusMap scope direction pool focus w = (.ok m, w') :=
  focusMap_of_answers (r.endsAround scope direction pool focus) calm
    ⟨fun _ id _ => callersAnswer id, fun _ id _ => calleesAnswer id⟩

/-- Upstream of a method, every key has its direct callers. -/
theorem focusMap_upstream_calm (r : FiniteResolver) (scope : SearchScope) (pool : Pool)
    (focus : String) (calm : w.Calm)
    (answers : ∀ id, ∃ callers, r.directCallers scope none id = .ok callers) :
    ∃ m w', r.focusMap scope .upstream pool focus w = (.ok m, w') ∧ focus ∈ m.keys ∧
      ∀ id ∈ m.keys, ∃ callers, r.directCallers scope none id = .ok callers ∧
        ∀ x, x ∈ m.callersOf id ↔ x ∈ callers := by
  obtain ⟨m, w', hmap⟩ := focusMap_of_answers (r.endsAround scope .upstream pool focus) calm
    ⟨fun _ id _ => answers id, fun asked => nomatch asked⟩
  refine ⟨m, w', hmap, (mem_keys_focusMap hmap focus).2 (.inl rfl), ?_⟩
  intro id hid
  obtain ⟨callers, hlookup⟩ := answers id
  have hid : Reachable (r.directCallers scope none) [focus] [] id := by
    rcases (mem_keys_focusMap hmap id).1 hid with rfl | ⟨-, hid⟩ | ⟨asked, -⟩
    · exact reachable_iff_neighbour.2 (.inl rfl)
    · exact hid
    · cases asked
  refine ⟨callers, hlookup, fun x => ?_⟩
  rw [mem_callersOf_focusMap hmap]
  simp [Direction.includesUpstream, Direction.includesDownstream, hid, Neighbour, hlookup]

end Traversal

end CallAtlas
