import CallAtlas.Source.Signature

/-!
# Signatures built step by step

The parameters of a function are written one after the other at the end of a list of texts, and a
marker is written as soon as its place is reached.  The default of a positional parameter is looked
up by an index that counts from the first parameter with a default, and a look-up may fail.
-/

namespace CallAtlas.Source

/-- Why no signature is built. -/
inductive BuildError where
  /-- No default has the index that is looked up. -/
  | noDefault (index : Int)
  /-- An expression has no written form. -/
  | unwritten (cause : PrintError)
deriving DecidableEq

/-- The element with an index.  An index below zero counts from the end. -/
def elementAt? {α : Type} (xs : List α) (index : Int) : Option α :=
  let place := if index < 0 then index + xs.length else index
  if place < 0 then none else xs[place.toNat]?

namespace Params

/-- Index of the first positional parameter with a default.  It is below zero if there are too many
defaults. -/
def firstDefault {α : Type} (p : Params α) : Int :=
  (p.positionalOnly ++ p.ordinary).length - p.defaults.length

def buildDefault (p : Params Expr) (index : Int) : Except BuildError String :=
  match elementAt? p.defaults (index - p.firstDefault) with
  | some d => d.text.mapError .unwritten
  | none => .error (.noDefault (index - p.firstDefault))

def buildPositional (p : Params Expr) (param : Param Expr) (index : Int) :
    Except BuildError String := do
  let text ← param.text.mapError .unwritten
  if p.firstDefault ≤ index then
    let value ← p.buildDefault index
    return text ++ "=" ++ value
  else
    return text

/-- Adds a positional parameter, and behind the last of the positional-only ones a slash. -/
def addPositional (p : Params Expr) (texts : List String) (x : Param Expr × Nat) :
    Except BuildError (List String) := do
  let text ← p.buildPositional x.1 x.2
  let texts := texts ++ [text]
  if p.positionalOnly ≠ [] ∧ (x.2 : Int) = p.positionalOnly.length - 1 then
    return texts ++ ["/"]
  else
    return texts

/-- Adds the parameter for all further positional arguments, or the star in its place. -/
def addVariadic (p : Params Expr) (texts : List String) : Except BuildError (List String) :=
  match p.variadic with
  | some v => do
    let text ← v.text.mapError .unwritten
    return texts ++ ["*" ++ text]
  | none => .ok (if p.keywordOnly = [] then texts else texts ++ ["*"])

def addKeyword (texts : List String) (x : Param Expr × Option Expr) :
    Except BuildError (List String) := do
  let text ← x.1.text.mapError .unwritten
  match x.2 with
  | some d =>
    let value ← d.text.mapError .unwritten
    return texts ++ [text ++ "=" ++ value]
  | none => return texts ++ [text]

def addKeywordVariadic (p : Params Expr) (texts : List String) :
    Except BuildError (List String) :=
  match p.keywordVariadic with
  | some v => do
    let text ← v.text.mapError .unwritten
    return texts ++ ["**" ++ text]
  | none => .ok texts

/-- The texts of a parameter list, to be joined by commas. -/
def build (p : Params Expr) : Except BuildError (List String) := do
  let texts ← (p.positionalOnly ++ p.ordinary).zipIdx.foldlM p.addPositional []
  let texts ← p.addVariadic texts
  let texts ← (p.keywordOnly.zip p.keywordDefaults).foldlM addKeyword texts
  p.addKeywordVariadic texts

end Params

def FunctionHead.build (h : FunctionHead) : Except BuildError String := do
  let texts ← h.params.build
  let head := (if h.isAsync then "async def " else "def ") ++ h.name.text ++ "(" ++
    String.intercalate ", " texts ++ ")"
  match h.returns with
  | some e =>
    let t ← e.text.mapError .unwritten
    return head ++ " -> " ++ t
  | none => return head

end CallAtlas.Source
