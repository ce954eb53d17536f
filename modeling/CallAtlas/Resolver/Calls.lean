import CallAtlas.Resolver.Basic

/-!
# Resolvers from calls

A resolver that knows a list of methods and a list of calls between them.
-/

namespace CallAtlas

open Project (SearchScope)

/-- A call: the enclosing methods, innermost first, the called method and the file. -/
structure Call where
  enclosing : List String
  callee : String
  filePath : String

namespace Call

/-- File of a call outside all methods whose file is not given. -/
def defaultFile : String := "main.py"

/-- The call from the given methods.  Unless the file is given, it is the file of the innermost
one. -/
def make (enclosing : List String) (callee : String) (file : Option String) : Call :=
  let own := match enclosing with
    | id :: _ => (Method.ofId id).filePath
    | [] => defaultFile
  ⟨enclosing, callee, file.getD own⟩

/-- The mention that a call makes. -/
def site (c : Call) : Site :=
  ⟨c.filePath, 1, c.callee, .calls, c.enclosing⟩

end Call

/-- The resolver with the given methods and calls.  The mentions of the method `broken` cannot be
looked up. -/
def FiniteResolver.ofCalls (methods : List Method) (calls : List Call) (maxNestingDepth : Int)
    (broken : Option String) : FiniteResolver where
  maxNestingDepth := maxNestingDepth
  methodsIn scope := .ok
    ((methods.filter fun m => scope.contains m.filePath).map (·.id)).eraseDups
  references id scope :=
    if broken = some id then .error (.unavailable id)
    else .ok ((calls.filter fun c => c.callee = id && scope.contains c.filePath).map Call.site)
  callees id := .ok
    ((calls.filter fun c => c.enclosing.head? = some id).map (·.callee)).eraseDups
  method? id := .ok (methods.find? fun m => m.id = id)
  finite := by
    refine ⟨calls.flatMap fun c => c.callee :: c.enclosing, ?_, ?_⟩
    · intro id scope sites h site hsite m hm
      split at h
      · cases h
      · obtain rfl := Except.ok.inj h
        obtain ⟨c, hc, rfl⟩ := List.mem_map.1 hsite
        exact List.mem_flatMap.2 ⟨c, (List.mem_filter.1 hc).1, List.mem_cons_of_mem _ hm⟩
    · intro id found h m hm
      obtain rfl := Except.ok.inj h
      obtain ⟨c, hc, rfl⟩ := List.mem_map.1 (List.mem_eraseDups.1 hm)
      exact List.mem_flatMap.2 ⟨c, (List.mem_filter.1 hc).1, List.mem_cons_self⟩

end CallAtlas
