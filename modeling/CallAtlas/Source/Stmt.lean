import CallAtlas.Source.Pattern

/-!
# Statements

The abstract syntax of statements and modules.  Definitions record the lines they start and end
on.
-/

namespace CallAtlas.Source

structure Span where
  first : Nat
  last : Nat
deriving DecidableEq

structure Alias where
  name : List Ident
  asName : Option Ident

structure WithItem where
  context : Expr
  target : Option Expr

/-- An `except` clause. -/
structure Handler (σ : Type) where
  type : Option Expr
  name : Option Ident
  body : List σ

/-- A `case` clause. -/
structure Case (σ : Type) where
  pattern : Pattern
  guard : Option Expr
  body : List σ

/-- The head of a function definition: all of it but its decorators and its body. -/
structure FunctionHead where
  isAsync : Bool
  name : Ident
  params : Params Expr
  returns : Option Expr
  span : Span

/-- The head of a class definition: all of it but its decorators and its body. -/
structure ClassHead where
  name : Ident
  bases : List Expr
  keywords : List (Keyword Expr)
  span : Span

/-- Statements. -/
inductive Stmt where
  | functionDef (head : FunctionHead) (decorators : List Expr) (body : List Stmt)
  | classDef (head : ClassHead) (decorators : List Expr) (body : List Stmt)
  | ret (value : Option Expr)
  | delete (targets : List Expr)
  | assign (targets : List Expr) (value : Expr)
  | augAssign (target : Expr) (op : BinaryOp) (value : Expr)
  | annAssign (target annotation : Expr) (value : Option Expr)
  | forLoop (isAsync : Bool) (target source : Expr) (body orelse : List Stmt)
  | whileLoop (test : Expr) (body orelse : List Stmt)
  | ifElse (test : Expr) (body orelse : List Stmt)
  | withBlock (isAsync : Bool) (items : List WithItem) (body : List Stmt)
  | matchOn (subject : Expr) (cases : List (Case Stmt))
  | raise (error cause : Option Expr)
  | tryBlock (isGroup : Bool) (body : List Stmt) (handlers : List (Handler Stmt))
      (orelse final : List Stmt)
  | assert (test : Expr) (message : Option Expr)
  | importModules (names : List Alias)
  | importFrom (level : Nat) (module : List Ident) (names : List Alias)
  | global (names : List Ident)
  | nonlocal (names : List Ident)
  | expr (value : Expr)
  | pass
  | break
  | continue

/-- A direct part of a statement. -/
inductive Part where
  | expr (e : Expr)
  | stmt (s : Stmt)

def Part.ofExprs (es : List Expr) : List Part := es.map .expr

def Part.ofBody (body : List Stmt) : List Part := body.map .stmt

def WithItem.parts (item : WithItem) : List Part :=
  Part.ofExprs (item.context :: item.target.toList)

def Handler.parts (handler : Handler Stmt) : List Part :=
  Part.ofExprs handler.type.toList ++ Part.ofBody handler.body

def Case.parts (c : Case Stmt) : List Part :=
  Part.ofExprs (c.pattern.exprs ++ c.guard.toList) ++ Part.ofBody c.body

/-- The direct parts of a statement that is no definition, in the order of the abstract grammar.
A definition has its decorators and its body as parts. -/
def Stmt.parts : Stmt → List Part
  | .functionDef _ decorators body => Part.ofExprs decorators ++ Part.ofBody body
  | .classDef _ decorators body => Part.ofExprs decorators ++ Part.ofBody body
  | .ret value => Part.ofExprs value.toList
  | .delete targets => Part.ofExprs targets
  | .assign targets value => Part.ofExprs (targets ++ [value])
  | .augAssign target _ value => Part.ofExprs [target, value]
  | .annAssign target annotation value => Part.ofExprs (target :: annotation :: value.toList)
  | .forLoop _ target source body orelse =>
    Part.ofExprs [target, source] ++ Part.ofBody (body ++ orelse)
  | .whileLoop test body orelse => Part.ofExprs [test] ++ Part.ofBody (body ++ orelse)
  | .ifElse test body orelse => Part.ofExprs [test] ++ Part.ofBody (body ++ orelse)
  | .withBlock _ items body => items.flatMap (·.parts) ++ Part.ofBody body
  | .matchOn subject cases => .expr subject :: cases.flatMap (·.parts)
  | .raise error cause => Part.ofExprs (error.toList ++ cause.toList)
  | .tryBlock _ body handlers orelse final =>
    Part.ofBody body ++ handlers.flatMap (·.parts) ++ Part.ofBody (orelse ++ final)
  | .assert test message => Part.ofExprs (test :: message.toList)
  | .importModules _ => []
  | .importFrom .. => []
  | .global _ => []
  | .nonlocal _ => []
  | .expr value => Part.ofExprs [value]
  | .pass => []
  | .break => []
  | .continue => []

end CallAtlas.Source
