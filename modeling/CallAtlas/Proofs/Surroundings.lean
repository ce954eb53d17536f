import CallAtlas.Proofs.Focus
import CallAtlas.Resolver.Calls

/-!
# The surroundings of a method

The callers map around one method, described by chains of calls alone: chains of direct callers in
the scope lead upstream from the method, and chains of callees lead downstream.  On a cyclic relation
a method may stand on both sides, and then its callers from both sides are united.
-/

namespace CallAtlas.Traversal

open Project (SearchScope)
open Relation (TransGen ReflTransGen)

section

variable (r : Resolver) (scope : SearchScope) (direction : Direction) (focus : String)

/-- Only finitely many methods can be reached from a method in the directions that are asked for. -/
structure FiniteAround : Prop where
  callers : direction.includesUpstream = true →
    {id | ReflTransGen (Neighbour (r.directCallers scope none)) focus id}.Finite
  callees : direction.includesDownstream = true →
    {id | ReflTransGen (Neighbour r.callees) focus id}.Finite

/-- A map that holds the surroundings of a method.  Its keys are the method and what chains lead to.
A caller of a key is a direct caller of something reached upstream, or it is reached downstream and
has the key as a callee. -/
structure Surrounds (m : CallersMap) : Prop where
  wellFormed : m.WellFormed
  mem_keys : ∀ k, k ∈ m.keys ↔ k = focus ∨
    (direction.includesUpstream = true ∧
      TransGen (Neighbour (r.directCallers scope none)) focus k) ∨
    (direction.includesDownstream = true ∧ TransGen (Neighbour r.callees) focus k)
  mem_callersOf : ∀ k c, c ∈ m.callersOf k ↔
    (direction.includesUpstream = true ∧
      ReflTransGen (Neighbour (r.directCallers scope none)) focus k ∧
      Neighbour (r.directCallers scope none) k c) ∨
    (direction.includesDownstream = true ∧ ReflTransGen (Neighbour r.callees) focus c ∧
      Neighbour r.callees c k)

/-- A map that unites two others, key by key. -/
structure Unites (m up down : CallersMap) : Prop where
  mem_keys : ∀ k, k ∈ m.keys ↔ k ∈ up.keys ∨ k ∈ down.keys
  mem_callersOf : ∀ k c, c ∈ m.callersOf k ↔ c ∈ up.callersOf k ∨ c ∈ down.callersOf k

end

section

variable {r : Resolver} {scope : SearchScope} {direction : Direction} {pool : Pool}
  {focus : String} {w w' : Walk}

theorem FiniteAround.ends (finite : FiniteAround r scope direction focus) (pool : Pool) :
    r.EndsAround scope direction pool focus where
  callers asked w := by
    apply ends_of_finite_reachable pool w
    simpa only [reachable_iff_chain] using finite.callers asked
  callees asked w := by
    apply ends_of_finite_reachable pool w
    simpa only [reachable_iff_chain] using finite.callees asked

/-- Whatever map is gathered around a method holds its surroundings. -/
theorem surrounds_of_focusMap {ends : r.EndsAround scope direction pool focus} {m : CallersMap}
    (h : r.focusMap scope direction pool focus ends w = (.ok m, w')) :
    Surrounds r scope direction focus m where
  wellFormed := (focusMap_closed h).1
  mem_keys k := by
    rw [mem_keys_focusMap h, reachable_iff_chain, reachable_iff_chain]
    simp only [Relation.reflTransGen_iff_eq_or_transGen]
    tauto
  mem_callersOf k c := by
    rw [mem_callersOf_focusMap h, reachable_iff_chain, reachable_iff_chain]

/-- The surroundings in both directions unite those in each of them. -/
theorem Surrounds.unites {m up down : CallersMap} (both : Surrounds r scope .both focus m)
    (upstream : Surrounds r scope .upstream focus up)
    (downstream : Surrounds r scope .downstream focus down) : Unites m up down where
  mem_keys k := by
    rw [both.mem_keys, upstream.mem_keys, downstream.mem_keys]
    simp only [Direction.includesUpstream, Direction.includesDownstream]
    tauto
  mem_callersOf k c := by
    rw [both.mem_callersOf, upstream.mem_callersOf, downstream.mem_callersOf]
    simp [Direction.includesUpstream, Direction.includesDownstream]

/-- Around every method of a resolver with finitely many methods, what can be reached is finite. -/
theorem finiteAround (r : FiniteResolver) (scope : SearchScope) (direction : Direction)
    (focus : String) : FiniteAround r.toResolver scope direction focus := by
  obtain ⟨ids, henclosing, hcallees⟩ := r.finite
  constructor
  · intro _
    apply (focus :: ids).finite_toSet.subset
    intro id chain
    cases chain with
    | refl => exact List.mem_cons_self
    | tail _ hop =>
        obtain ⟨callers, hlookup, hid⟩ := hop
        obtain ⟨sites, hsites, site, hsite, hcontaining⟩ := (Resolver.mem_directCallers hlookup).1 hid
        exact List.mem_cons_of_mem _ (henclosing _ _ sites hsites site hsite id
          (Resolver.mem_enclosing_of_containing? hcontaining))
  · intro _
    apply (focus :: ids).finite_toSet.subset
    intro id chain
    cases chain with
    | refl => exact List.mem_cons_self
    | tail _ hop =>
        obtain ⟨callees, hlookup, hid⟩ := hop
        exact List.mem_cons_of_mem _ (hcallees _ callees hlookup id hid)

/-- If only finitely many methods can be reached from a method, and each of them can be looked up,
the callers map around the method is gathered, and it holds the surroundings of the method.  The
method is a key, and so is every caller.  In both directions it unites the maps of each. -/
theorem focusMap_holds_surroundings (r : Resolver) (scope : SearchScope) (direction : Direction)
    (pool : Pool) (focus : String) {w : Walk} (calm : w.Calm)
    (finite : FiniteAround r scope direction focus)
    (answers : AnswersAround r scope direction focus) :
    ∃ (ends : r.EndsAround scope direction pool focus) (m : CallersMap) (w' : Walk),
      r.focusMap scope direction pool focus ends w = (.ok m, w') ∧
      Surrounds r scope direction focus m ∧ focus ∈ m.keys ∧ m.Closed ∧
      (direction = .both → ∃ endsUp endsDown up down wUp wDown,
        r.focusMap scope .upstream pool focus endsUp w = (.ok up, wUp) ∧
        r.focusMap scope .downstream pool focus endsDown w = (.ok down, wDown) ∧
        Unites m up down) := by
  have ends := finite.ends pool
  obtain ⟨m, w', hmap⟩ := focusMap_of_answers ends calm answers
  have surrounds := surrounds_of_focusMap hmap
  refine ⟨ends, m, w', hmap, surrounds, (surrounds.mem_keys focus).2 (.inl rfl),
    (focusMap_closed hmap).2, ?_⟩
  rintro rfl
  have endsUp : r.EndsAround scope .upstream pool focus :=
    ⟨fun _ => ends.callers rfl, fun asked => nomatch asked⟩
  have endsDown : r.EndsAround scope .downstream pool focus :=
    ⟨(fun asked => nomatch asked), fun _ => ends.callees rfl⟩
  obtain ⟨up, wUp, hup⟩ := focusMap_of_answers endsUp calm
    ⟨fun _ => answers.callers rfl, fun asked => nomatch asked⟩
  obtain ⟨down, wDown, hdown⟩ := focusMap_of_answers endsDown calm
    ⟨(fun asked => nomatch asked), fun _ => answers.callees rfl⟩
  exact ⟨endsUp, endsDown, up, down, wUp, wDown, hup, hdown,
    surrounds.unites (surrounds_of_focusMap hup) (surrounds_of_focusMap hdown)⟩

/-- Two methods that call each other; a third one calls the first of them, and the second calls a
fourth one. -/
def ring : FiniteResolver :=
  .ofCalls [] [.make ["f"] "g" none, .make ["g"] "f" none, .make ["h"] "f" none,
    .make ["g"] "k" none] 1 none

theorem ring_answers (direction : Direction) (focus : String) :
    AnswersAround ring.toResolver .wholeProject direction focus where
  callers _ _ _ := ⟨_, rfl⟩
  callees _ _ _ := ⟨_, rfl⟩

/-- Around the first method of the ring, the second is on both sides; the third is only found
upstream and the fourth only downstream. -/
theorem focusMap_holds_surroundings_ring :
    ∃ ends m w', ring.toResolver.focusMap .wholeProject .both ⟨1, .given⟩ "f" ends
        (.start .never) = (.ok m, w') ∧
      ("f" ∈ m.keys ∧ "g" ∈ m.keys ∧ "h" ∈ m.keys ∧ "k" ∈ m.keys) ∧
      (∀ c, c ∈ m.callersOf "f" ↔ c = "g" ∨ c = "h") ∧ "g" ∈ m.callersOf "k" := by
  obtain ⟨ends, m, w', hmap, surrounds, hfocus, -⟩ :=
    focusMap_holds_surroundings ring.toResolver .wholeProject .both ⟨1, .given⟩ "f"
      (w := .start .never) rfl (finiteAround ring .wholeProject .both "f") (ring_answers .both "f")
  have hcallers : ring.directCallers .wholeProject none "f" = .ok ["g", "h"] := by rfl
  have hf : Neighbour ring.callees "f" "g" := ⟨["g"], by rfl, by simp⟩
  have hg : Neighbour ring.callees "g" "k" := ⟨["f", "k"], by rfl, by simp⟩
  have hcaller : ∀ c, Neighbour ring.callees c "f" → c = "g" ∨ c = "h" := by
    rintro c ⟨callees, hlookup, hmem⟩
    obtain rfl := Except.ok.inj hlookup
    simp only [List.mem_eraseDups, List.mem_map, List.mem_filter, List.mem_cons,
      List.not_mem_nil, or_false] at hmem
    obtain ⟨call, ⟨rfl | rfl | rfl | rfl, hc⟩, hcallee⟩ := hmem <;> simp_all [Call.make]
  refine ⟨ends, m, w', hmap, ?_, ?_, ?_⟩
  · refine ⟨hfocus, ?_, ?_, ?_⟩
    · exact (surrounds.mem_keys "g").2 (.inr (.inr ⟨rfl, .single hf⟩))
    · exact (surrounds.mem_keys "h").2 (.inr (.inl ⟨rfl, .single ⟨_, hcallers, by simp⟩⟩))
    · exact (surrounds.mem_keys "k").2 (.inr (.inr ⟨rfl, .tail (.single hf) hg⟩))
  · intro c
    rw [surrounds.mem_callersOf]
    constructor
    · rintro (⟨-, -, callers, hlookup, hc⟩ | ⟨-, -, hc⟩)
      · obtain rfl := Except.ok.inj (hcallers.symm.trans hlookup)
        simpa using hc
      · exact hcaller c hc
    · intro hc
      exact .inl ⟨rfl, .refl, _, hcallers, by simpa using hc⟩
  · exact (surrounds.mem_callersOf "k" "g").2 (.inr ⟨rfl, .single hf, hg⟩)

end

end CallAtlas.Traversal
