import CallAtlas.Source.Expr

/-!
# Assignment targets

Which expressions can be bound or deleted, and what they become as targets: the names and
attributes at their ends change their usage, everything below those is still read.
-/

namespace CallAtlas.Source

mutual

/-- The expression as a target; starred parts are admitted if `stars` is set. -/
def Expr.asTarget? (stars : Bool) (usage : Usage) : Expr → Option Expr
  | .name id _ line => some (.name id usage line)
  | .member value attr _ line => some (.member value attr usage line)
  | .subscript value index => some (.subscript value index)
  | .starred value =>
    if stars then (value.asTarget? stars usage).map .starred else none
  | .tuple elements => (asTargets? stars usage elements).map .tuple
  | .list elements => (asTargets? stars usage elements).map .list
  | _ => none

def asTargets? (stars : Bool) (usage : Usage) : List Expr → Option (List Expr)
  | [] => some []
  | e :: rest => do
    let t ← e.asTarget? stars usage
    let ts ← asTargets? stars usage rest
    return t :: ts

end

/-- The expression as the target of an annotation or an augmented assignment: a name, an attribute
or a subscript. -/
def Expr.asSingleTarget? : Expr → Option Expr
  | .name id _ line => some (.name id .store line)
  | .member value attr _ line => some (.member value attr .store line)
  | .subscript value index => some (.subscript value index)
  | _ => none

end CallAtlas.Source
