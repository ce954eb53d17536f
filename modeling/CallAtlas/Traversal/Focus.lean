import CallAtlas.Traversal.Expansion

/-!
# Callers maps of a project

The callers map of everything around one method, and the callers map of a whole scope.
-/

namespace CallAtlas

open Project (SearchScope)

/-- Which side of a focal method to expand. -/
inductive Direction where
  | upstream
  | downstream
  | both
deriving DecidableEq

namespace Direction

def all : List Direction := [.upstream, .downstream, .both]

def text : Direction → String
  | .upstream => "upstream"
  | .downstream => "downstream"
  | .both => "upstream_downstream"

def ofText? (s : String) : Option Direction :=
  all.find? fun d => d.text = s

def label : Direction → String
  | .upstream => "Only upstream"
  | .downstream => "Only downstream"
  | .both => "Only upstream & downstream"

def includesUpstream : Direction → Bool
  | .downstream => false
  | _ => true

def includesDownstream : Direction → Bool
  | .upstream => false
  | _ => true

end Direction

/-- A caller is one of the methods that enclose a mention. -/
theorem Resolver.mem_directCallers {r : Resolver} {scope : SearchScope}
    {known : Option (List String)} {id m : String} {callers : List String}
    (h : r.directCallers scope known id = .ok callers) :
    m ∈ callers ↔
      ∃ sites, r.references id scope = .ok sites ∧ ∃ site ∈ sites, r.containing? known site = some m := by
  unfold directCallers at h
  split at h
  · cases h
  · rename_i sites hsites
    obtain rfl := Except.ok.inj h
    simp [List.mem_eraseDups, hsites]

theorem Resolver.mem_enclosing_of_containing? {r : Resolver} {known : Option (List String)}
    {site : Site} {m : String} (h : r.containing? known site = some m) : m ∈ site.enclosing := by
  unfold containing? nearest? at h
  exact List.mem_of_mem_take (List.mem_of_find?_eq_some h)

namespace Traversal

/-- The expansion in a direction that is not asked for. -/
def Expanded.nothing (w : Walk) : Expanded := ⟨.ok [], [], w⟩

end Traversal

/-! ## Around one method -/

namespace Resolver

open Traversal

/-- What a direction asks for around a method comes to an end, whatever was done before. -/
structure EndsAround (r : Resolver) (scope : SearchScope) (direction : Direction) (pool : Pool)
    (focus : String) : Prop where
  callers : direction.includesUpstream = true →
    ∀ w, Ends (r.directCallers scope none) pool (.start [focus] []) w
  callees : direction.includesDownstream = true → ∀ w, Ends r.callees pool (.start [focus] []) w

section

variable (r : Resolver) (scope : SearchScope) (direction : Direction) (pool : Pool)
  (focus : String) (ends : r.EndsAround scope direction pool focus) (w : Walk)

def callersAround : Expanded :=
  if asked : direction.includesUpstream = true then
    expand (r.directCallers scope none) pool [focus] [] w (ends.callers asked w)
  else .nothing w

def calleesAround : Expanded :=
  if asked : direction.includesDownstream = true then
    expand r.callees pool [focus] [] w (ends.callees asked w)
  else .nothing w

/-- The callers map of everything reachable from one method, which is always a key. -/
def focusMap : Except Interrupt CallersMap × Walk :=
  let up := r.callersAround scope direction pool focus ends w
  match up.result with
  | .error i => (.error i, up.walk)
  | .ok callers =>
    let down := r.calleesAround scope direction pool focus ends up.walk
    match down.result with
    | .error i => (.error i, down.walk)
    | .ok callees =>
      (.ok (CallersMap.mergeAll [[(focus, [])], callers, CallersMap.invert callees]), down.walk)

end

end Resolver

namespace FiniteResolver

open Traversal

/-- Expanding callers ends, since there are finitely many of them. -/
theorem callers_end (r : FiniteResolver) (scope : SearchScope) (pool : Pool)
    (start seen : List String) (w : Walk) :
    Ends (r.directCallers scope none) pool (.start start seen) w := by
  obtain ⟨ids, henclosing, -⟩ := r.finite
  refine ends_of_finite ids pool start seen w ?_
  intro id callers h x hx
  obtain ⟨sites, hsites, site, hsite, hcontaining⟩ := (Resolver.mem_directCallers h).1 hx
  exact henclosing id scope sites hsites site hsite x
    (Resolver.mem_enclosing_of_containing? hcontaining)

/-- Expanding callees ends, since there are finitely many of them. -/
theorem callees_end (r : FiniteResolver) (pool : Pool) (start seen : List String) (w : Walk) :
    Ends r.callees pool (.start start seen) w := by
  obtain ⟨ids, -, hcallees⟩ := r.finite
  exact ends_of_finite ids pool start seen w hcallees

theorem endsAround (r : FiniteResolver) (scope : SearchScope) (direction : Direction)
    (pool : Pool) (focus : String) : r.EndsAround scope direction pool focus where
  callers _ := r.callers_end scope pool [focus] []
  callees _ := r.callees_end pool [focus] []

def upstream (r : FiniteResolver) (scope : SearchScope) (pool : Pool) (start seen : List String)
    (w : Walk) : Expanded :=
  expand (r.directCallers scope none) pool start seen w (r.callers_end scope pool start seen w)

def downstream (r : FiniteResolver) (pool : Pool) (start seen : List String) (w : Walk) :
    Expanded :=
  expand r.callees pool start seen w (r.callees_end pool start seen w)

/-- The callers map of everything reachable from one method, around which everything ends. -/
def focusMap (r : FiniteResolver) (scope : SearchScope) (direction : Direction) (pool : Pool)
    (focus : String) (w : Walk) : Except Interrupt CallersMap × Walk :=
  r.toResolver.focusMap scope direction pool focus (r.endsAround scope direction pool focus) w

end FiniteResolver

/-! ## In a whole scope -/

/-- The callers map of a scope: every method in it with its direct callers in it. -/
def Traversal.scopeMap (r : Resolver) (scope : SearchScope) (pool : Pool) (w : Walk) :
    Except Interrupt CallersMap × Walk :=
  match r.methodsIn scope with
  | .error e => (.error (.failed e), w)
  | .ok ids => gather (r.directCallers scope (some ids)) pool ids w

end CallAtlas
