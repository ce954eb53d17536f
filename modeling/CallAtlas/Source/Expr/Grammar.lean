import CallAtlas.Source.Cursor
import CallAtlas.Source.Expr.Target
import CallAtlas.Source.StringLiteral
import CallAtlas.Source.Token.Scan

/-!
# Grammar of expressions

Each rule is an ordinary function that takes as a parameter how the expressions nested inside it
are read.  `Expr.parse` ties the knot: nested expressions are read by the same rules with a smaller
depth, and since a token is read before every descent, the length of the text is depth enough.
-/

namespace CallAtlas.Source

/-- Kinds of expressions that occur nested in others. -/
inductive Goal where
  /-- An expression list in which parts may be starred. -/
  | starExpressions
  /-- A `yield` expression or an expression list. -/
  | yieldOrList
  /-- An expression that may be starred or bind a name. -/
  | starNamed
  /-- An expression that may bind a name. -/
  | named
  | expression
  | disjunction
  | bitOr
  | factor
  /-- Targets of a `for` clause. -/
  | targets
  /-- One target of an assignment. -/
  | target

namespace Grammar

open Rule

def startsExpression : TokenKind → Bool
  | .ident _ | .number _ | .string _ => true
  | .op s => ["(", "[", "\x7b", "-", "+", "~", "...", "*"].contains s
  | .keyword w => ["None", "True", "False", "not", "lambda", "await"].contains w
  | _ => false

def atExpression : Rule Bool := do
  return startsExpression (← peek)

def atNamed : Rule Bool := do
  match ← peekTwo with
  | (.ident _, .op ":=") => return true
  | _ => return false

variable (inner : Goal → Rule Expr)

/-! ## Comprehensions and arguments -/

def clause : Rule (Clause Expr) := do
  let isAsync ← tryKeyword "async"
  keyword "for"
  let target ← inner .targets
  keyword "in"
  let source ← inner .disjunction
  let conditions ← iterate [] fun cs => do
    if ← tryKeyword "if" then
      let c ← inner .disjunction
      return some (c :: cs)
    else
      return none
  return ⟨isAsync, target, source, conditions.reverse⟩

def atClause : Rule Bool := do
  return (← atKeyword "for") || (← atKeyword "async")

def clauses : Rule (List (Clause Expr)) := do
  let first ← clause inner
  let rest ← iterate [] fun cs => do
    if ← atClause then
      let c ← clause inner
      return some (c :: cs)
    else
      return none
  return first :: rest.reverse

/-- Arguments read so far: positional ones and keywords, both reversed, and whether a keyword or
an unpacked mapping has been read. -/
structure Arguments where
  args : List Expr
  keywords : List (Keyword Expr)
  sawKeyword : Bool
  sawMapping : Bool

/-- One argument.  Plain arguments come before keywords, and after an unpacked mapping no sequence
is unpacked. -/
def argument (a : Arguments) : Rule Arguments := do
  match ← peekTwo with
  | (.op "*", _) =>
    advance
    if a.sawMapping then failure
    let value ← inner .expression
    return { a with args := .starred value :: a.args }
  | (.op "**", _) =>
    advance
    let value ← inner .expression
    return { a with
      keywords := ⟨none, value⟩ :: a.keywords, sawKeyword := true, sawMapping := true }
  | (.ident id, .op "=") =>
    advance
    advance
    let value ← inner .expression
    return { a with keywords := ⟨some id, value⟩ :: a.keywords, sawKeyword := true }
  | _ =>
    if a.sawKeyword then failure
    let value ← inner .named
    return { a with args := value :: a.args }

/-- The arguments of a call up to the closing parenthesis, which is read too.  A generator that is
the only argument needs no parentheses of its own. -/
def arguments : Rule (List Expr × List (Keyword Expr)) := do
  let (a, _) ← iterate ((⟨[], [], false, false⟩, false) : Arguments × Bool) fun (a, done) => do
    if done || (← atOp ")") then return none
    else
      let next ← argument inner a
      return some (next, !(← tryOp ","))
  match a.args, a.keywords with
  | [element], [] =>
    if ← atClause then
      match element with
      | .starred _ => failure
      | _ =>
        let cs ← clauses inner
        op ")"
        return ([.generator element cs], [])
    else
      op ")"
      return ([element], [])
  | args, keywords =>
    op ")"
    return (args.reverse, keywords.reverse)

/-! ## Atoms -/

def isStarred : Expr → Bool
  | .starred _ => true
  | _ => false

def yieldExpr : Rule Expr := do
  keyword "yield"
  if ← tryKeyword "from" then
    let value ← inner .expression
    return .yieldFrom value
  else if ← atExpression then
    let value ← inner .starExpressions
    return .yield (some value)
  else
    return .yield none

def parenthesized : Rule Expr := do
  if ← tryOp ")" then
    return .tuple []
  else if ← atKeyword "yield" then
    let value ← yieldExpr inner
    op ")"
    return value
  else
    let first ← inner .starNamed
    if ← tryOp "," then
      let (rest, _) ← commaSeparated (untilOp ")") (inner .starNamed)
      op ")"
      return .tuple (first :: rest)
    else if isStarred first then
      failure
    else if ← atClause then
      let cs ← clauses inner
      op ")"
      return .generator first cs
    else
      op ")"
      return first

def bracketed : Rule Expr := do
  if ← tryOp "]" then
    return .list []
  else
    let first ← inner .starNamed
    if ← tryOp "," then
      let (rest, _) ← commaSeparated (untilOp "]") (inner .starNamed)
      op "]"
      return .list (first :: rest)
    else if ← atClause then
      if isStarred first then failure
      let cs ← clauses inner
      op "]"
      return .listComp first cs
    else
      op "]"
      return .list [first]

/-- An entry of a dictionary display. -/
def entry : Rule (Entry Expr) := do
  if ← tryOp "**" then
    let value ← inner .bitOr
    return ⟨none, value⟩
  else
    let key ← inner .expression
    op ":"
    let value ← inner .expression
    return ⟨some key, value⟩

def dictRest (first : Entry Expr) : Rule Expr := do
  if ← tryOp "," then
    let (rest, _) ← commaSeparated (untilOp "\x7d") (entry inner)
    op "\x7d"
    return .dict (first :: rest)
  else
    op "\x7d"
    return .dict [first]

def braced : Rule Expr := do
  if ← tryOp "\x7d" then
    return .dict []
  else if ← tryOp "**" then
    let value ← inner .bitOr
    dictRest inner ⟨none, value⟩
  else
    let binds ← atNamed
    let first ← inner .starNamed
    if !binds && !isStarred first && (← atOp ":") then
      advance
      let value ← inner .expression
      if ← atClause then
        let cs ← clauses inner
        op "\x7d"
        return .dictComp first value cs
      else
        dictRest inner ⟨some first, value⟩
    else if ← atClause then
      if isStarred first then failure
      let cs ← clauses inner
      op "\x7d"
      return .setComp first cs
    else if ← tryOp "," then
      let (rest, _) ← commaSeparated (untilOp "\x7d") (inner .starNamed)
      op "\x7d"
      return .set (first :: rest)
    else
      op "\x7d"
      return .set [first]

/-- Reads the expression of a replacement field that starts on the given line. -/
def fieldExpr (line : Nat) (source : List Char) : Option Expr := do
  let tokens ← Token.scan line ('(' :: source ++ [')'])
  let (value, _) ← (inner .starExpressions).run (Cursor.ofTokens tokens line)
  return value

def strings : Rule Expr := do
  let tokens ← iterate [] fun ts => do
    let line ← nextLine
    match ← peek with
    | .string t =>
      advance
      return some ((t, line) :: ts)
    | _ => return none
  match StringLiteral.value (fieldExpr inner) tokens.reverse with
  | some e => return e
  | none => failure

def atom : Rule Expr := do
  let line ← nextLine
  match ← peek with
  | .ident id =>
    advance
    return .name id .load line
  | .number value =>
    advance
    return .literal value
  | .string _ => strings inner
  | .keyword "None" =>
    advance
    return .literal .none
  | .keyword "True" =>
    advance
    return .literal (.truth true)
  | .keyword "False" =>
    advance
    return .literal (.truth false)
  | .op "..." =>
    advance
    return .literal .ellipsis
  | .op "(" =>
    advance
    parenthesized inner
  | .op "[" =>
    advance
    bracketed inner
  | .op "\x7b" =>
    advance
    braced inner
  | _ => failure

/-- A part of a slice, absent before a colon, a comma or the closing bracket. -/
def slicePart : Rule (Option Expr) := do
  if (← atOp ":") || (← atOp ",") || (← atOp "]") then return none
  else
    let e ← inner .expression
    return some e

def index : Rule Expr := do
  if ← tryOp "*" then
    let value ← inner .expression
    return .starred value
  else if ← atNamed then
    inner .named
  else
    let lower ← slicePart inner
    if ← tryOp ":" then
      let upper ← slicePart inner
      let step ← if ← tryOp ":" then slicePart inner else pure none
      return .slice lower upper step
    else
      match lower with
      | some e => return e
      | none => failure

/-- The indices of a subscript and its closing bracket; several of them, or a starred one, form a
tuple. -/
def indices : Rule Expr := do
  let first ← index inner
  if ← tryOp "," then
    let (rest, _) ← commaSeparated (untilOp "]") (index inner)
    op "]"
    return .tuple (first :: rest)
  else
    op "]"
    return if isStarred first then .tuple [first] else first

/-- An atom with attributes, calls and subscripts.  All of them start on the line of the atom. -/
def primary : Rule Expr := do
  let line ← nextLine
  let start ← atom inner
  iterate start fun e => do
    if ← tryOp "." then
      let attr ← ident
      return some (.member e attr .load line)
    else if ← tryOp "(" then
      let (args, keywords) ← arguments inner
      return some (.call e args keywords line)
    else if ← tryOp "[" then
      let i ← indices inner
      return some (.subscript e i)
    else
      return none

/-! ## Operators -/

/-- A power, whose exponent may carry a sign. -/
def power : Rule Expr := do
  let awaits ← tryKeyword "await"
  let value ← primary inner
  let left := if awaits then .await value else value
  if ← tryOp "**" then
    let right ← inner .factor
    return .binary left .pow right
  else
    return left

/-- The sign at the cursor. -/
def signOp : Rule (Option UnaryOp) := do
  if ← tryOp "-" then return some .minus
  else if ← tryOp "+" then return some .plus
  else if ← tryOp "~" then return some .invert
  else return none

/-- A power with signs in front. -/
def factor : Rule Expr := do
  let signs ← iterate [] fun (ss : List UnaryOp) => do
    match ← signOp with
    | some s => return some (s :: ss)
    | none => return none
  let operand ← power inner
  return signs.foldl (fun e s => .unary s e) operand

/-- Operands joined from the left by the operators of one strength. -/
def leftAssociative (ops : List (String × BinaryOp)) (operand : Rule Expr) : Rule Expr := do
  let first ← operand
  iterate first fun left => do
    match ← peek with
    | .op s =>
      match ops.lookup s with
      | some o =>
        advance
        let right ← operand
        return some (.binary left o right)
      | none => return none
    | _ => return none

def term : Rule Expr :=
  leftAssociative
    [("*", .mult), ("/", .div), ("//", .floorDiv), ("%", .mod), ("@", .matMult)] (factor inner)

def sum : Rule Expr := leftAssociative [("+", .add), ("-", .sub)] (term inner)

def shift : Rule Expr := leftAssociative [("<<", .shiftLeft), (">>", .shiftRight)] (sum inner)

def bitAnd : Rule Expr := leftAssociative [("&", .bitAnd)] (shift inner)

def bitXor : Rule Expr := leftAssociative [("^", .bitXor)] (bitAnd inner)

def bitOr : Rule Expr := leftAssociative [("|", .bitOr)] (bitXor inner)

def compareOp : Rule (Option CompareOp) := do
  match ← peekTwo with
  | (.op "==", _) => advance; return some .eq
  | (.op "!=", _) => advance; return some .notEq
  | (.op "<", _) => advance; return some .lt
  | (.op "<=", _) => advance; return some .ltEq
  | (.op ">", _) => advance; return some .gt
  | (.op ">=", _) => advance; return some .gtEq
  | (.keyword "in", _) => advance; return some .isIn
  | (.keyword "not", .keyword "in") => advance; advance; return some .notIn
  | (.keyword "is", .keyword "not") => advance; advance; return some .isNot
  | (.keyword "is", _) => advance; return some .is
  | _ => return none

def comparison : Rule Expr := do
  let left ← bitOr inner
  let pairs ← iterate [] fun (ps : List (CompareOp × Expr)) => do
    match ← compareOp with
    | some o =>
      let right ← bitOr inner
      return some ((o, right) :: ps)
    | none => return none
  match pairs.reverse with
  | [] => return left
  | ps => return .compare left (ps.map (·.1)) (ps.map (·.2))

def inversion : Rule Expr := do
  let count ← iterate 0 fun (n : Nat) => do
    if ← tryKeyword "not" then return some (n + 1) else return none
  let operand ← comparison inner
  return count.repeat (fun e => .unary .not e) operand

/-- Operands joined by a connective; a single operand stands for itself. -/
def connected (word : String) (op : BoolOp) (operand : Rule Expr) : Rule Expr := do
  let first ← operand
  let rest ← iterate [] fun (es : List Expr) => do
    if ← tryKeyword word then
      let e ← operand
      return some (e :: es)
    else
      return none
  match rest.reverse with
  | [] => return first
  | es => return .boolOp op (first :: es)

def conjunction : Rule Expr := connected "and" .and (inversion inner)

def disjunction : Rule Expr := connected "or" .or (conjunction inner)

/-! ## Parameters -/

/-- Parameters read so far, all lists reversed; `awaitsKeyword` says that a bare star has no
keyword-only parameter after it yet. -/
structure Parameters where
  params : Params Expr
  sawStar : Bool
  awaitsKeyword : Bool

def Parameters.none : Parameters := ⟨⟨[], [], Option.none, [], [], Option.none, []⟩, false, false⟩

/-- An annotation, if annotations are admitted and one follows. -/
def annotation (annotated : Bool) : Rule (Option Expr) := do
  if !annotated then
    return none
  else if ← tryOp ":" then
    let e ← inner .expression
    return some e
  else
    return none

/-- The annotation of a variadic parameter, which may be starred. -/
def starAnnotation (annotated : Bool) : Rule (Option Expr) := do
  if !annotated then
    return none
  else if ← tryOp ":" then
    if ← tryOp "*" then
      let e ← inner .bitOr
      return some (.starred e)
    else
      let e ← inner .expression
      return some e
  else
    return none

def plainParameter (annotated : Bool) (s : Parameters) : Rule Parameters := do
  let name ← ident
  let note ← annotation inner annotated
  let p := s.params
  let value ← if ← tryOp "=" then some <$> inner .expression else pure none
  if s.sawStar then
    return { s with
      params := { p with
        keywordOnly := ⟨name, note⟩ :: p.keywordOnly
        keywordDefaults := value :: p.keywordDefaults }
      awaitsKeyword := false }
  else
    match value with
    | some d =>
      return { s with params := { p with
        ordinary := ⟨name, note⟩ :: p.ordinary, defaults := d :: p.defaults } }
    | none =>
      if !p.defaults.isEmpty then failure
      return { s with params := { p with ordinary := ⟨name, note⟩ :: p.ordinary } }

def parameter (annotated : Bool) (s : Parameters) : Rule Parameters := do
  let p := s.params
  if p.keywordVariadic.isSome then failure
  else if ← tryOp "/" then
    if s.sawStar || !p.positionalOnly.isEmpty || p.ordinary.isEmpty then failure
    return { s with params := { p with positionalOnly := p.ordinary, ordinary := [] } }
  else if ← tryOp "**" then
    if s.awaitsKeyword then failure
    let name ← ident
    let note ← annotation inner annotated
    return { s with params := { p with keywordVariadic := some ⟨name, note⟩ } }
  else if ← tryOp "*" then
    if s.sawStar then failure
    if ← atOp "," then
      return { s with sawStar := true, awaitsKeyword := true }
    else
      let name ← ident
      let note ← starAnnotation inner annotated
      return { s with params := { p with variadic := some ⟨name, note⟩ }, sawStar := true }
  else
    plainParameter inner annotated s

/-- A parameter list up to the delimiter that closes it, which is not read. -/
def parameters (annotated : Bool) (close : String) : Rule (Params Expr) := do
  let (s, _) ← iterate ((Parameters.none, false) : Parameters × Bool) fun (s, done) => do
    if done || (← atOp close) then return none
    else
      let next ← parameter inner annotated s
      return some (next, !(← tryOp ","))
  if s.awaitsKeyword then failure
  let p := s.params
  return ⟨p.positionalOnly.reverse, p.ordinary.reverse, p.variadic, p.keywordOnly.reverse,
    p.keywordDefaults.reverse, p.keywordVariadic, p.defaults.reverse⟩

/-! ## Expressions and lists of them -/

def lambda : Rule Expr := do
  let params ← parameters inner false ":"
  op ":"
  let body ← inner .expression
  return .lambda params body

def expression : Rule Expr := do
  if ← tryKeyword "lambda" then
    lambda inner
  else
    let body ← disjunction inner
    if ← tryKeyword "if" then
      let test ← disjunction inner
      keyword "else"
      let orelse ← inner .expression
      return .conditional test body orelse
    else
      return body

/-- An expression that may bind a name. -/
def named : Rule Expr := do
  if ← atNamed then
    let line ← nextLine
    let id ← ident
    advance
    let value ← inner .expression
    return .named (.name id .store line) value
  else
    expression inner

/-- A starred operand, or else what the given rule reads. -/
def starredOr (rule : Rule Expr) : Rule Expr := do
  if ← tryOp "*" then
    let value ← bitOr inner
    return .starred value
  else
    rule

/-- An expression list in which parts may be starred; with a comma it is a tuple. -/
def starExpressions : Rule Expr := do
  let first ← starredOr inner (expression inner)
  if ← tryOp "," then
    let (rest, _) ← commaSeparated atExpression (starredOr inner (expression inner))
    return .tuple (first :: rest)
  else
    return first

/-- One target: a primary that can be bound, possibly starred. -/
def target : Rule Expr := do
  let starred ← tryOp "*"
  let e ← primary inner
  match e.asTarget? true .store with
  | some t => return if starred then .starred t else t
  | none => failure

/-- The targets of a `for` clause; with a comma they are a tuple. -/
def targets : Rule Expr := do
  let first ← target inner
  if ← tryOp "," then
    let (rest, _) ← commaSeparated atExpression (target inner)
    return .tuple (first :: rest)
  else
    return first

/-- The rule for a goal. -/
def rule : Goal → Rule Expr
  | .starExpressions => starExpressions inner
  | .yieldOrList => do
    if ← atKeyword "yield" then yieldExpr inner else starExpressions inner
  | .starNamed => starredOr inner (named inner)
  | .named => named inner
  | .expression => expression inner
  | .disjunction => disjunction inner
  | .bitOr => bitOr inner
  | .factor => factor inner
  | .targets => targets inner
  | .target => target inner

end Grammar

/-- Reads an expression of the given kind whose nesting does not exceed the depth. -/
def Expr.parse : Nat → Goal → Rule Expr
  | 0, _ => failure
  | depth + 1, goal => Grammar.rule (Expr.parse depth) goal

end CallAtlas.Source
