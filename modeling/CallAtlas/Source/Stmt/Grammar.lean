import CallAtlas.Source.Pattern.Grammar
import CallAtlas.Source.Stmt

/-!
# Grammar of statements

Simple statements are read off an expression list and what follows it; compound statements take as
a parameter how the blocks inside them are read.  `Stmt.parseBlock` ties the knot: a block inside a
block is read with a smaller depth.
-/

namespace CallAtlas.Source

namespace StmtGrammar

open Rule

variable (depth : Nat)

abbrev read (goal : Goal) : Rule Expr := Expr.parse depth goal

/-! ## Simple statements -/

def augmentedOps : List (String × BinaryOp) :=
  [("+=", .add), ("-=", .sub), ("*=", .mult), ("@=", .matMult), ("/=", .div), ("%=", .mod),
    ("&=", .bitAnd), ("|=", .bitOr), ("^=", .bitXor), ("<<=", .shiftLeft), (">>=", .shiftRight),
    ("**=", .pow), ("//=", .floorDiv)]

def augmentedOp : Rule (Option BinaryOp) := do
  match ← peek with
  | .op s => return augmentedOps.lookup s
  | _ => return none

/-- The rest of a chain of assignments after its first equals sign: further targets, then the
value.  `targets` is reversed. -/
def assignment (first : Expr) : Rule Stmt := do
  let (targets, value) ← iterate (([], first) : List Expr × Expr) fun (targets, value) => do
    if ← tryOp "=" then
      match value.asTarget? true .store with
      | some t =>
        let next ← read depth .yieldOrList
        return some (t :: targets, next)
      | none => failure
    else
      return none
  return .assign targets.reverse value

def expressionStatement : Rule Stmt := do
  let e ← read depth .yieldOrList
  if ← atOp "=" then
    assignment depth e
  else if ← atOp ":" then
    match e.asSingleTarget? with
    | some target =>
      advance
      let annotation ← read depth .expression
      let value ← if ← tryOp "=" then some <$> read depth .yieldOrList else pure none
      return .annAssign target annotation value
    | none => failure
  else
    match ← augmentedOp with
    | some o =>
      match e.asSingleTarget? with
      | some target =>
        advance
        let value ← read depth .yieldOrList
        return .augAssign target o value
      | none => failure
    | none => return .expr e

def deletion : Rule Stmt := do
  let (es, _) ← commaSeparated Grammar.atExpression (Grammar.primary (Expr.parse depth))
  match asTargets? false .delete es with
  | some (t :: ts) => return .delete (t :: ts)
  | _ => failure

def dottedName : Rule (List Ident) := do
  let first ← ident
  let rest ← iterate [] fun (ids : List Ident) => do
    if ← tryOp "." then
      let id ← ident
      return some (id :: ids)
    else
      return none
  return first :: rest.reverse

def asName : Rule (Option Ident) := do
  if ← tryKeyword "as" then some <$> ident else return none

def names {α : Type} (item : Rule α) : Rule (List α) := do
  let first ← item
  let rest ← iterate [] fun (xs : List α) => do
    if ← tryOp "," then
      let x ← item
      return some (x :: xs)
    else
      return none
  return first :: rest.reverse

def importedModule : Rule Alias := do
  let name ← dottedName
  let local' ← asName
  return ⟨name, local'⟩

def importedName : Rule Alias := do
  let name ← ident
  let local' ← asName
  return ⟨[name], local'⟩

/-- The dots of a relative import. -/
def relativeLevel : Rule Nat :=
  iterate 0 fun (n : Nat) => do
    if ← tryOp "." then return some (n + 1)
    else if ← tryOp "..." then return some (n + 3)
    else return none

def importedNames : Rule (List Alias) := do
  if ← tryOp "*" then return []
  else if ← tryOp "(" then
    let (xs, _) ← commaSeparated (untilOp ")") importedName
    op ")"
    if xs.isEmpty then failure
    return xs
  else
    names importedName

def importFrom : Rule Stmt := do
  let level ← relativeLevel
  let module ← if 0 < level && (← atKeyword "import") then pure [] else dottedName
  keyword "import"
  let xs ← importedNames
  return .importFrom level module xs

def optional (goal : Goal) : Rule (Option Expr) := do
  if ← Grammar.atExpression then some <$> read depth goal else return none

def simple : Rule Stmt := do
  match ← peek with
  | .keyword "return" => advance; .ret <$> optional depth .starExpressions
  | .keyword "import" => advance; .importModules <$> names importedModule
  | .keyword "from" => advance; importFrom
  | .keyword "raise" =>
    advance
    let error ← optional depth .expression
    if error.isSome then
      let cause ← if ← tryKeyword "from" then some <$> read depth .expression else pure none
      return .raise error cause
    else
      return .raise none none
  | .keyword "pass" => advance; return .pass
  | .keyword "break" => advance; return .break
  | .keyword "continue" => advance; return .continue
  | .keyword "del" => advance; deletion depth
  | .keyword "assert" =>
    advance
    let test ← read depth .expression
    let message ← if ← tryOp "," then some <$> read depth .expression else pure none
    return .assert test message
  | .keyword "global" => advance; .global <$> names ident
  | .keyword "nonlocal" => advance; .nonlocal <$> names ident
  | _ => expressionStatement depth

def moreOnLine : Rule Bool := do
  match ← peek with
  | .newline => return false
  | _ => return true

def simpleLine : Rule (List Stmt) := do
  let first ← simple depth
  let (rest, _) ← iterate (([], false) : List Stmt × Bool) fun (ss, done) => do
    if done then return none
    else if ← tryOp ";" then
      if ← moreOnLine then
        let s ← simple depth
        return some (s :: ss, false)
      else
        return some (ss, true)
    else
      return none
  newline
  return first :: rest.reverse

/-! ## Compound statements -/

variable (block : Rule (List Stmt))

def colonBlock : Rule (List Stmt) := do
  op ":"
  block

def optionalBlock (word : String) : Rule (List Stmt) := do
  if ← tryKeyword word then colonBlock block else return []

/-- A conditional statement after its keyword; each `elif` is a conditional of its own in the
alternative of the one before. -/
def conditional : Rule Stmt := do
  let test ← read depth .named
  let body ← colonBlock block
  let others ← iterate [] fun (bs : List (Expr × List Stmt)) => do
    if ← tryKeyword "elif" then
      let t ← read depth .named
      let b ← colonBlock block
      return some ((t, b) :: bs)
    else
      return none
  let last ← optionalBlock block "else"
  return .ifElse test body (others.foldl (fun orelse b => [.ifElse b.1 b.2 orelse]) last)

def whileLoop : Rule Stmt := do
  let test ← read depth .named
  let body ← colonBlock block
  let orelse ← optionalBlock block "else"
  return .whileLoop test body orelse

def forLoop (isAsync : Bool) : Rule Stmt := do
  let target ← read depth .targets
  keyword "in"
  let source ← read depth .starExpressions
  let body ← colonBlock block
  let orelse ← optionalBlock block "else"
  return .forLoop isAsync target source body orelse

def withItem : Rule WithItem := do
  let context ← read depth .expression
  if ← tryKeyword "as" then
    let target ← read depth .target
    return ⟨context, some target⟩
  else
    return ⟨context, none⟩

/-- The items of a `with` statement in parentheses, up to the colon. -/
def groupedItems : Rule (List WithItem) := do
  op "("
  let (items, _) ← commaSeparated (untilOp ")") (withItem depth)
  op ")"
  if items.isEmpty then failure
  op ":"
  return items

/-- The items of a `with` statement, up to the colon. -/
def plainItems : Rule (List WithItem) := do
  let items ← names (withItem depth)
  op ":"
  return items

def withBlock (isAsync : Bool) : Rule Stmt := do
  let items ← groupedItems depth <|> plainItems depth
  let body ← block
  return .withBlock isAsync items body

/-- An `except` clause after its keyword; in a group handler a star comes next. -/
def handler (isGroup : Bool) : Rule (Handler Stmt) := do
  if isGroup then
    op "*"
    let type ← read depth .expression
    let name ← asName
    let body ← colonBlock block
    return ⟨some type, name, body⟩
  else if ← atOp ":" then
    let body ← colonBlock block
    return ⟨none, none, body⟩
  else
    let type ← read depth .expression
    let name ← asName
    let body ← colonBlock block
    return ⟨some type, name, body⟩

/-- A `try` statement after its keyword.  All its handlers are of the same kind. -/
def tryBlock : Rule Stmt := do
  let body ← colonBlock block
  let isGroup ← match ← peekTwo with
    | (.keyword "except", .op "*") => pure true
    | _ => pure false
  let handlers ← iterate [] fun (hs : List (Handler Stmt)) => do
    if ← tryKeyword "except" then
      let h ← handler depth block isGroup
      return some (h :: hs)
    else
      return none
  let orelse ← if handlers.isEmpty then pure [] else optionalBlock block "else"
  let final ← optionalBlock block "finally"
  if handlers.isEmpty && final.isEmpty then failure
  return .tryBlock isGroup body handlers.reverse orelse final

/-- A function definition after its keyword.  It starts on the given line. -/
def functionDef (isAsync : Bool) (line : Nat) (decorators : List Expr) : Rule Stmt := do
  let name ← ident
  op "("
  let params ← Grammar.parameters (Expr.parse depth) true ")"
  op ")"
  let returns ← if ← tryOp "->" then some <$> read depth .expression else pure none
  let body ← colonBlock block
  return .functionDef ⟨isAsync, name, params, returns, ⟨line, (← get).lastLine⟩⟩ decorators body

/-- A class definition after its keyword.  It starts on the given line. -/
def classDef (line : Nat) (decorators : List Expr) : Rule Stmt := do
  let name ← ident
  let (bases, keywords) ← if ← tryOp "(" then classArguments else pure ([], [])
  let body ← colonBlock block
  return .classDef ⟨name, bases, keywords, ⟨line, (← get).lastLine⟩⟩ decorators body
where
  /-- The bases and keywords of a class, which are arguments other than a bare generator. -/
  classArguments : Rule (List Expr × List (Keyword Expr)) := do
    let (a, _) ← iterate ((⟨[], [], false, false⟩, false) : Grammar.Arguments × Bool)
      fun (a, done) => do
        if done || (← atOp ")") then return none
        else
          let next ← Grammar.argument (Expr.parse depth) a
          return some (next, !(← tryOp ","))
    op ")"
    return (a.args.reverse, a.keywords.reverse)

def decorated : Rule Stmt := do
  let decorators ← iterate [] fun (ds : List Expr) => do
    if ← tryOp "@" then
      let d ← read depth .named
      newline
      return some (d :: ds)
    else
      return none
  let line ← nextLine
  if ← tryKeyword "def" then functionDef depth block false line decorators.reverse
  else if ← tryKeyword "class" then classDef depth block line decorators.reverse
  else
    keyword "async"
    keyword "def"
    functionDef depth block true line decorators.reverse

/-- A statement that begins with `async`. -/
def asynchronous : Rule Stmt := do
  let line ← nextLine
  keyword "async"
  if ← tryKeyword "def" then functionDef depth block true line []
  else if ← tryKeyword "with" then withBlock depth block true
  else
    keyword "for"
    forLoop depth block true

def caseClause : Rule (Case Stmt) := do
  softKeyword "case"
  let pattern ← Pattern.parseTop (Grammar.strings (Expr.parse depth)) depth
  let guard ← if ← tryKeyword "if" then some <$> read depth .named else pure none
  let body ← colonBlock block
  return ⟨pattern, guard, body⟩

def subject : Rule Expr := do
  let first ← read depth .starNamed
  if ← tryOp "," then
    let (rest, _) ← commaSeparated Grammar.atExpression (read depth .starNamed)
    return .tuple (first :: rest)
  else if Grammar.isStarred first then
    failure
  else
    return first

def matchOn : Rule Stmt := do
  softKeyword "match"
  let e ← subject depth
  op ":"
  newline
  match ← peek with
  | .indent => advance
  | _ => failure
  let first ← caseClause depth block
  let rest ← iterate [] fun (cs : List (Case Stmt)) => do
    match ← peek with
    | .dedent => return none
    | _ =>
      let c ← caseClause depth block
      return some (c :: cs)
  match ← peek with
  | .dedent => advance
  | _ => failure
  return .matchOn e (first :: rest.reverse)

def compound : Rule Stmt := do
  match ← peek with
  | .keyword "if" => advance; conditional depth block
  | .keyword "while" => advance; whileLoop depth block
  | .keyword "for" => advance; forLoop depth block false
  | .keyword "try" => advance; tryBlock depth block
  | .keyword "with" => advance; withBlock depth block false
  | .keyword "def" => decorated depth block
  | .keyword "class" => decorated depth block
  | .keyword "async" => asynchronous depth block
  | .op "@" => decorated depth block
  | _ => matchOn depth block

/-- Whether the next token can only begin a compound statement. -/
def atCompound : Rule Bool := do
  match ← peek with
  | .keyword w => return ["if", "while", "for", "try", "with", "def", "class", "async"].contains w
  | .op s => return s == "@"
  | _ => return false

def atMatch : Rule Bool := do
  match ← peek with
  | .ident id => return id.text == "match"
  | _ => return false

/-- One compound statement, or the simple statements of one line. -/
def statement : Rule (List Stmt) := do
  if ← atCompound then
    return [← compound depth block]
  else if ← atMatch then
    (do return [← compound depth block]) <|> simpleLine depth
  else
    simpleLine depth

def statements : Rule (List Stmt) := do
  let chunks ← iterate [] fun (cs : List (List Stmt)) => do
    match ← peek with
    | .dedent => return none
    | .endMarker => return none
    | _ =>
      let c ← statement depth block
      return some (c :: cs)
  return chunks.reverse.flatten

/-- A block: simple statements on the same line, or indented statements. -/
def blockRule : Rule (List Stmt) := do
  match ← peek with
  | .newline =>
    advance
    match ← peek with
    | .indent => advance
    | _ => failure
    let body ← statements depth block
    match ← peek with
    | .dedent => advance
    | _ => failure
    return body
  | _ => simpleLine depth

end StmtGrammar

/-- Reads a block whose nesting does not exceed `levels`. -/
def Stmt.parseBlock (depth : Nat) : Nat → Rule (List Stmt)
  | 0 => failure
  | levels + 1 => StmtGrammar.blockRule depth (Stmt.parseBlock depth levels)

def Stmt.parseModule (depth levels : Nat) : Rule (List Stmt) := do
  let body ← StmtGrammar.statements depth (Stmt.parseBlock depth levels)
  match ← Rule.peek with
  | .endMarker => return body
  | _ => failure

end CallAtlas.Source
