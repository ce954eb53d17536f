import CallAtlas.Fault
import CallAtlas.Method
import CallAtlas.Project.Filter
import CallAtlas.Project.SearchScope
import CallAtlas.Source.Expr.Printer

/-!
# Resolvers

Where an analysis learns which methods there are, where they are mentioned, and which of them a
method mentions itself.  Methods are named by their IDs.
-/

namespace CallAtlas

open Project (SearchScope)

/-- A place where a method is mentioned. -/
structure Site where
  filePath : String
  line : Nat
  /-- The mention as it is written. -/
  target : String
  kind : Source.ReferenceKind
  /-- IDs of the enclosing methods, innermost first. -/
  enclosing : List String
deriving DecidableEq

/-- Why a question to a resolver has no answer. -/
inductive QueryError where
  /-- Mentions of the method cannot be looked up. -/
  | unavailable (id : String)
  | unprintable (e : Source.PrintError)
  | project (e : Project.ProjectError)
  /-- The resolver itself fails. -/
  | raised (f : Fault)

def QueryError.fault : QueryError → Fault
  | .unavailable id => .other ("lookup of " ++ id ++ " failed")
  | .unprintable e => .other e.message
  | .project e => .other e.message
  | .raised f => f

/-- The first of the enclosing methods, at most `maxDepth` of them, that may count as a caller. -/
def nearest? {α : Type} (enclosing : List α) (known : α → Bool) (maxDepth : Int) : Option α :=
  (enclosing.take maxDepth.toNat).find? known

/-- A source of methods and mentions.  Methods that an answer repeats count once. -/
structure Resolver where
  /-- How many enclosing methods are considered for a mention. -/
  maxNestingDepth : Int
  /-- Methods defined inside a scope. -/
  methodsIn : SearchScope → Except QueryError (List String)
  /-- Mentions of a method inside a scope. -/
  references : String → SearchScope → Except QueryError (List Site)
  /-- Methods that the body of a method mentions. -/
  callees : String → Except QueryError (List String)
  /-- The method with an ID, if the resolver knows it. -/
  method? : String → Except QueryError (Option Method)

namespace Resolver

/-- The method that counts as the caller at a site: the nearest enclosing one among those given, or
among all. -/
def containing? (r : Resolver) (known : Option (List String)) (site : Site) : Option String :=
  let eligible (id : String) : Bool := match known with
    | none => true
    | some ids => ids.contains id
  nearest? site.enclosing eligible r.maxNestingDepth

/-- Methods that hold a mention of a method.  Mentions outside all eligible methods count for
nothing. -/
def directCallers (r : Resolver) (scope : SearchScope) (known : Option (List String))
    (id : String) : Except QueryError (List String) :=
  match r.references id scope with
  | .error e => .error e
  | .ok sites => .ok (sites.filterMap (r.containing? known)).eraseDups

end Resolver

/-- A resolver with finitely many methods. -/
structure FiniteResolver extends Resolver where
  /-- There is a list of all methods that enclose mentions or are callees. -/
  finite : ∃ ids : List String,
    (∀ id scope sites, references id scope = .ok sites →
      ∀ site ∈ sites, ∀ m ∈ site.enclosing, m ∈ ids) ∧
    ∀ id found, callees id = .ok found → ∀ m ∈ found, m ∈ ids

end CallAtlas
