import CallAtlas.Source.Token

/-!
# Reading tokens

A grammar rule reads tokens from a cursor and either yields a value or fails; a failed rule leaves
the cursor to the alternative.  Repetition is bounded by the number of tokens left, so every rule
is a total function.
-/

namespace CallAtlas.Source

/-- The tokens still to be read with their number, and the last line of the solid tokens read so
far. -/
structure Cursor where
  rest : List Token
  left : Nat
  lastLine : Nat
  left_eq : left = rest.length

namespace Cursor

def ofTokens (tokens : List Token) (line : Nat) : Cursor :=
  ⟨tokens, tokens.length, line, rfl⟩

/-- The cursor behind the next token. -/
def next? (cursor : Cursor) : Option Cursor :=
  match cursor with
  | ⟨t :: rest, left, lastLine, left_eq⟩ =>
    some ⟨rest, left - 1, if t.kind.isSolid then t.lastLine else lastLine, by simp [left_eq]⟩
  | ⟨[], _, _, _⟩ => none

end Cursor

/-- A grammar rule. -/
abbrev Rule (α : Type) := StateT Cursor Option α

namespace Rule

def peek : Rule TokenKind := do
  match (← get).rest with
  | t :: _ => return t.kind
  | [] => return .endMarker

def peekTwo : Rule (TokenKind × TokenKind) := do
  match (← get).rest with
  | t :: u :: _ => return (t.kind, u.kind)
  | [t] => return (t.kind, .endMarker)
  | [] => return (.endMarker, .endMarker)

def nextLine : Rule Nat := do
  match (← get).rest with
  | t :: _ => return t.line
  | [] => return (← get).lastLine

def advance : Rule Unit := do
  match (← get).next? with
  | some cursor => set cursor
  | none => failure

def atOp (symbol : String) : Rule Bool := do
  match ← peek with
  | .op s => return s == symbol
  | _ => return false

def atKeyword (word : String) : Rule Bool := do
  match ← peek with
  | .keyword w => return w == word
  | _ => return false

/-- Reads the given operator or delimiter if it comes next, and tells whether it did. -/
def tryOp (symbol : String) : Rule Bool := do
  if ← atOp symbol then
    advance
    return true
  else
    return false

def tryKeyword (word : String) : Rule Bool := do
  if ← atKeyword word then
    advance
    return true
  else
    return false

def op (symbol : String) : Rule Unit := do
  if ← tryOp symbol then return () else failure

def keyword (word : String) : Rule Unit := do
  if ← tryKeyword word then return () else failure

def ident : Rule Ident := do
  match ← peek with
  | .ident id =>
    advance
    return id
  | _ => failure

/-- Reads an identifier that acts as the given keyword. -/
def softKeyword (word : String) : Rule Unit := do
  match ← peek with
  | .ident id => if id.text == word then advance else failure
  | _ => failure

def newline : Rule Unit := do
  match ← peek with
  | .newline => advance
  | _ => failure

/-- Applies a step until it gives nothing new, at most `fuel` times. -/
def iterateFor {σ : Type} (step : σ → Rule (Option σ)) : Nat → σ → Rule σ
  | 0, state => return state
  | fuel + 1, state => do
    match ← step state with
    | some next => iterateFor step fuel next
    | none => return state

/-- Applies a step until it gives nothing new.  Every step that goes on is expected to read a
token. -/
def iterate {σ : Type} (state : σ) (step : σ → Rule (Option σ)) : Rule σ := do
  iterateFor step ((← get).left + 1) state

/-- Items with commas between them, read as long as `more` allows another one; also tells whether
the last comma has no item after it. -/
def commaSeparated {α : Type} (more : Rule Bool) (item : Rule α) : Rule (List α × Bool) := do
  let (items, trailing, _) ← iterate (([], false, false) : List α × Bool × Bool)
    fun (items, _, done) => do
      if done then return none
      else if ← more then
        let x ← item
        let comma ← tryOp ","
        return some (x :: items, comma, !comma)
      else
        return (none : Option (List α × Bool × Bool))
  return (items.reverse, trailing)

def untilOp (close : String) : Rule Bool := do
  return !(← atOp close)

end Rule

end CallAtlas.Source
