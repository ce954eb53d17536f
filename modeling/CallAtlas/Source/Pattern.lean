import CallAtlas.Source.Expr

/-!
# Patterns

The patterns of a `match` statement.  A pattern mentions values, which are expressions, and binds
names, which are not.
-/

namespace CallAtlas.Source

/-- Patterns. -/
inductive Pattern where
  | value (value : Expr)
  | singleton (value : Literal)
  | sequence (patterns : List Pattern)
  | mapping (keys : List Expr) (patterns : List Pattern) (rest : Option Ident)
  | ofClass (cls : Expr) (patterns : List Pattern) (attrs : List Ident)
      (attrPatterns : List Pattern)
  | star (name : Option Ident)
  | as (pattern : Option Pattern) (name : Option Ident)
  | alternatives (patterns : List Pattern)

mutual

def Pattern.exprs : Pattern → List Expr
  | .value value => [value]
  | .singleton _ => []
  | .sequence patterns => patternExprs patterns
  | .mapping keys patterns _ => keys ++ patternExprs patterns
  | .ofClass cls patterns _ attrPatterns =>
    cls :: (patternExprs patterns ++ patternExprs attrPatterns)
  | .star _ => []
  | .as none _ => []
  | .as (some pattern) _ => pattern.exprs
  | .alternatives patterns => patternExprs patterns

def patternExprs : List Pattern → List Expr
  | [] => []
  | p :: rest => p.exprs ++ patternExprs rest

end

end CallAtlas.Source
