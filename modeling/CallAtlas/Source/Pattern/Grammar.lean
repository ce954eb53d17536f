import CallAtlas.Source.Expr.Grammar
import CallAtlas.Source.Pattern

/-!
# Grammar of patterns

The patterns of `case` clauses.  As for expressions, each rule takes as a parameter how nested
patterns are read, and `Pattern.parse` ties the knot.
-/

namespace CallAtlas.Source

namespace PatternGrammar

open Rule

/-- The expression rules are used for string literals only. -/
abbrev Strings := Rule Expr

variable (strings : Strings) (inner : Rule Pattern)

def number (negative : Bool) : Rule (Expr × Bool) := do
  match ← peek with
  | .number value =>
    advance
    let isImaginary := match value with
      | .imaginary _ => true
      | _ => false
    let e := Expr.literal value
    return (if negative then .unary .minus e else e, isImaginary)
  | _ => failure

def sumOp : Rule (Option BinaryOp) := do
  if ← tryOp "+" then return some .add
  else if ← tryOp "-" then return some .sub
  else return none

/-- A number with an optional sign, or the sum or difference of a real and an imaginary one. -/
def signedNumber : Rule Expr := do
  let negative ← tryOp "-"
  let (left, leftImaginary) ← number negative
  match ← sumOp with
  | none => return left
  | some o =>
    let (right, rightImaginary) ← number false
    if leftImaginary || !rightImaginary then failure
    return .binary left o right

/-- A literal, which is either a value to be compared with or one of the three constants. -/
def literal : Rule (Expr ⊕ Literal) := do
  match ← peek with
  | .string _ => .inl <$> strings
  | .number _ => .inl <$> signedNumber
  | .op "-" => .inl <$> signedNumber
  | .keyword "None" => advance; return .inr .none
  | .keyword "True" => advance; return .inr (.truth true)
  | .keyword "False" => advance; return .inr (.truth false)
  | _ => failure

/-- A dotted name, read as an expression; also tells whether it has a dot. -/
def dottedName : Rule (Expr × Bool) := do
  let line ← nextLine
  let first ← ident
  iterate (Expr.name first .load line, false) fun (e, _) => do
    if ← tryOp "." then
      let attr ← ident
      return some (.member e attr .load line, true)
    else
      return none

/-- A name that a pattern binds: any but the wildcard. -/
def captureName : Rule Ident := do
  let id ← ident
  if id.text == "_" then failure
  if (← atOp ".") || (← atOp "(") || (← atOp "=") then failure
  return id

/-- A name that is bound, or nothing for the wildcard. -/
def captureOrWildcard : Rule (Option Ident) := do
  match ← peek with
  | .ident id => if id.text == "_" then advance; return none else some <$> captureName
  | _ => failure

/-! ## Compound patterns -/

def maybeStar : Rule Pattern := do
  if ← tryOp "*" then .star <$> captureOrWildcard else inner

structure Items where
  keys : List Expr
  patterns : List Pattern
  rest : Option Ident

/-- One item of a mapping pattern; nothing may follow the rest. -/
def item (s : Items) : Rule Items := do
  if s.rest.isSome then failure
  else if ← tryOp "**" then
    let id ← captureName
    return { s with rest := some id }
  else
    let key ← match ← peek with
      | .ident _ => do
        let (e, hasDot) ← dottedName
        if hasDot then pure e else failure
      | _ => do
        match ← literal strings with
        | .inl e => pure e
        | .inr value => pure (.literal value)
    op ":"
    let pattern ← inner
    return { s with keys := key :: s.keys, patterns := pattern :: s.patterns }

def mapping : Rule Pattern := do
  let (s, _) ← iterate ((⟨[], [], none⟩, false) : Items × Bool) fun (s, done) => do
    if done || (← atOp "\x7d") then return none
    else
      let next ← item strings inner s
      return some (next, !(← tryOp ","))
  op "\x7d"
  return .mapping s.keys.reverse s.patterns.reverse s.rest

/-- Positional and named parts of a class pattern, reversed. -/
structure ClassParts where
  patterns : List Pattern
  attrs : List Ident
  attrPatterns : List Pattern

/-- One part of a class pattern; named parts come last. -/
def classPart (s : ClassParts) : Rule ClassParts := do
  match ← peekTwo with
  | (.ident id, .op "=") =>
    advance
    advance
    let pattern ← inner
    return { s with attrs := id :: s.attrs, attrPatterns := pattern :: s.attrPatterns }
  | _ =>
    if !s.attrs.isEmpty then failure
    let pattern ← inner
    return { s with patterns := pattern :: s.patterns }

def classPattern (cls : Expr) : Rule Pattern := do
  let (s, _) ← iterate ((⟨[], [], []⟩, false) : ClassParts × Bool) fun (s, done) => do
    if done || (← atOp ")") then return none
    else
      let next ← classPart inner s
      return some (next, !(← tryOp ","))
  op ")"
  return .ofClass cls s.patterns.reverse s.attrs.reverse s.attrPatterns.reverse

def parenthesized : Rule Pattern := do
  let (patterns, trailing) ← commaSeparated (untilOp ")") (maybeStar inner)
  op ")"
  match patterns, trailing with
  | [.star _], false => failure
  | [p], false => return p
  | ps, _ => return .sequence ps

def namePattern : Rule Pattern := do
  match ← peek with
  | .ident id =>
    if id.text == "_" then
      advance
      return .as none none
    else
      let (e, hasDot) ← dottedName
      if ← tryOp "(" then classPattern inner e
      else if ← atOp "=" then failure
      else if hasDot then return .value e
      else return .as none (some id)
  | _ => failure

/-- A pattern without alternatives. -/
def closed : Rule Pattern := do
  match ← peek with
  | .ident _ => namePattern inner
  | .op "(" => advance; parenthesized inner
  | .op "[" =>
    advance
    let (patterns, _) ← commaSeparated (untilOp "]") (maybeStar inner)
    op "]"
    return .sequence patterns
  | .op "\x7b" => advance; mapping strings inner
  | _ =>
    match ← literal strings with
    | .inl e => return .value e
    | .inr value => return .singleton value

def pattern : Rule Pattern := do
  let first ← closed strings inner
  let rest ← iterate [] fun (ps : List Pattern) => do
    if ← tryOp "|" then
      let p ← closed strings inner
      return some (p :: ps)
    else
      return none
  let whole := match rest.reverse with
    | [] => first
    | ps => .alternatives (first :: ps)
  if ← tryKeyword "as" then
    let id ← captureName
    return .as (some whole) (some id)
  else
    return whole

end PatternGrammar

/-- Reads a pattern whose nesting does not exceed the depth. -/
def Pattern.parse (strings : Rule Expr) : Nat → Rule Pattern
  | 0 => failure
  | depth + 1 => PatternGrammar.pattern strings (Pattern.parse strings depth)

/-- Reads the patterns of a `case` clause: one pattern, or a sequence without brackets. -/
def Pattern.parseTop (strings : Rule Expr) (depth : Nat) : Rule Pattern := do
  let first ← PatternGrammar.maybeStar (Pattern.parse strings depth)
  if ← Rule.tryOp "," then
    let more : Rule Bool := do return !(← Rule.atOp ":") && !(← Rule.atKeyword "if")
    let (rest, _) ← Rule.commaSeparated more (PatternGrammar.maybeStar (Pattern.parse strings depth))
    return .sequence (first :: rest)
  else
    match first with
    | .star _ => failure
    | p => return p

end CallAtlas.Source
