import CallAtlas.Source.Ident

/-!
# Expressions

The abstract syntax of expressions.  A name or an attribute records whether it is read, bound or
deleted; names, attributes and calls record the line they start on.  `Expr.children` lists the
parts of an expression in the order of the abstract grammar, which is the order in which a walk
visits them.
-/

namespace CallAtlas.Source

/-- How a name or an attribute is used. -/
inductive Usage where
  | load
  | store
  | delete
deriving DecidableEq

/-- Constant values.  A text is a list of code points because it may hold points that are no
characters; `marked` says that it was written with the `u` mark. -/
inductive Literal where
  | none
  | truth (value : Bool)
  | ellipsis
  | integer (value : Nat)
  | number (value : Float)
  | imaginary (value : Float)
  | text (points : List Nat) (marked : Bool)
  | bytes (values : List Nat)

inductive BoolOp where
  | and
  | or
deriving DecidableEq

inductive BinaryOp where
  | add
  | sub
  | mult
  | matMult
  | div
  | mod
  | pow
  | shiftLeft
  | shiftRight
  | bitOr
  | bitXor
  | bitAnd
  | floorDiv
deriving DecidableEq

inductive UnaryOp where
  | invert
  | not
  | plus
  | minus
deriving DecidableEq

inductive CompareOp where
  | eq
  | notEq
  | lt
  | ltEq
  | gt
  | gtEq
  | is
  | isNot
  | isIn
  | notIn
deriving DecidableEq

structure Param (α : Type) where
  name : Ident
  annotation : Option α

/-- The parameters of a function.  `defaults` belong to the last positional parameters, and
`keywordDefaults` has one entry for each keyword-only parameter. -/
structure Params (α : Type) where
  positionalOnly : List (Param α)
  ordinary : List (Param α)
  variadic : Option (Param α)
  keywordOnly : List (Param α)
  keywordDefaults : List (Option α)
  keywordVariadic : Option (Param α)
  defaults : List α

/-- A keyword argument; one without a name unpacks a mapping. -/
structure Keyword (α : Type) where
  name : Option Ident
  value : α

/-- An entry of a dictionary display; one without a key unpacks a mapping. -/
structure Entry (α : Type) where
  key : Option α
  value : α

/-- A `for` clause of a comprehension with its conditions. -/
structure Clause (α : Type) where
  isAsync : Bool
  target : α
  source : α
  conditions : List α

/-- Expressions. -/
inductive Expr where
  | name (id : Ident) (usage : Usage) (line : Nat)
  | member (value : Expr) (attr : Ident) (usage : Usage) (line : Nat)
  | call (func : Expr) (args : List Expr) (keywords : List (Keyword Expr)) (line : Nat)
  | literal (value : Literal)
  | boolOp (op : BoolOp) (values : List Expr)
  | named (target value : Expr)
  | binary (left : Expr) (op : BinaryOp) (right : Expr)
  | unary (op : UnaryOp) (operand : Expr)
  | lambda (params : Params Expr) (body : Expr)
  | conditional (test body orelse : Expr)
  | dict (entries : List (Entry Expr))
  | set (elements : List Expr)
  | listComp (element : Expr) (clauses : List (Clause Expr))
  | setComp (element : Expr) (clauses : List (Clause Expr))
  | dictComp (key value : Expr) (clauses : List (Clause Expr))
  | generator (element : Expr) (clauses : List (Clause Expr))
  | await (value : Expr)
  | yield (value : Option Expr)
  | yieldFrom (value : Expr)
  | compare (left : Expr) (ops : List CompareOp) (comparators : List Expr)
  | formatted (value : Expr) (conversion : Option Char) (spec : Option Expr)
  | joined (parts : List Expr)
  | subscript (value index : Expr)
  | starred (value : Expr)
  | list (elements : List Expr)
  | tuple (elements : List Expr)
  | slice (lower upper step : Option Expr)

/-- The annotations and defaults of parameters, in the order of the abstract grammar. -/
def Params.exprs {α : Type} (p : Params α) : List α :=
  (p.positionalOnly ++ p.ordinary ++ p.variadic.toList ++ p.keywordOnly).filterMap Param.annotation ++
    p.keywordDefaults.filterMap id ++ p.keywordVariadic.toList.filterMap Param.annotation ++ p.defaults

def Clause.parts {α : Type} (c : Clause α) : List α :=
  c.target :: c.source :: c.conditions

namespace Expr

/-- The direct subexpressions of an expression, in the order of the abstract grammar. -/
def children : Expr → List Expr
  | .name .. => []
  | .member value .. => [value]
  | .call func args keywords _ => func :: (args ++ keywords.map (·.value))
  | .literal _ => []
  | .boolOp _ values => values
  | .named target value => [target, value]
  | .binary left _ right => [left, right]
  | .unary _ operand => [operand]
  | .lambda params body => params.exprs ++ [body]
  | .conditional test body orelse => [test, body, orelse]
  | .dict entries => entries.filterMap (·.key) ++ entries.map (·.value)
  | .set elements => elements
  | .listComp element clauses => element :: clauses.flatMap (·.parts)
  | .setComp element clauses => element :: clauses.flatMap (·.parts)
  | .dictComp key value clauses => key :: value :: clauses.flatMap (·.parts)
  | .generator element clauses => element :: clauses.flatMap (·.parts)
  | .await value => [value]
  | .yield value => value.toList
  | .yieldFrom value => [value]
  | .compare left _ comparators => left :: comparators
  | .formatted value _ spec => value :: spec.toList
  | .joined parts => parts
  | .subscript value index => [value, index]
  | .starred value => [value]
  | .list elements => elements
  | .tuple elements => elements
  | .slice lower upper step => lower.toList ++ upper.toList ++ step.toList

end Expr

end CallAtlas.Source
