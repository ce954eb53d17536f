import CallAtlas.Source.Expr.Printer
import CallAtlas.Source.Finding

/-!
# Signatures

The one-line text of a definition's head.  The parameters of a function are first put into a list of
items, in which a slash ends the positional-only parameters and a bare star begins the keyword-only
ones; the text is then written item by item.
-/

namespace CallAtlas.Source

/-- An item of a written parameter list. -/
inductive ParamItem (α : Type) where
  | plain (param : Param α) (default : Option α)
  | slash
  | star
  | variadic (param : Param α)
  | keywordVariadic (param : Param α)

/-- The positional parameters, each of the last ones with its default. -/
def Params.positional {α : Type} (p : Params α) : List (Param α × Option α) :=
  alignRight (p.positionalOnly ++ p.ordinary) p.defaults

def Params.items {α : Type} (p : Params α) : List (ParamItem α) :=
  let positional := p.positional.map fun x => .plain x.1 x.2
  let only := positional.take p.positionalOnly.length
  let slash := if p.positionalOnly.isEmpty then [] else [.slash]
  let ordinary := positional.drop p.positionalOnly.length
  let star := match p.variadic with
    | some v => [.variadic v]
    | none => if p.keywordOnly.isEmpty then [] else [.star]
  let keywords := (p.keywordOnly.zip p.keywordDefaults).map fun x => .plain x.1 x.2
  let last := match p.keywordVariadic with
    | some v => [.keywordVariadic v]
    | none => []
  only ++ slash ++ ordinary ++ star ++ keywords ++ last

def Param.text (p : Param Expr) : Except PrintError String :=
  match p.annotation with
  | some a => do
    let t ← a.text
    return p.name.text ++ ": " ++ t
  | none => .ok p.name.text

def ParamItem.text : ParamItem Expr → Except PrintError String
  | .plain p none => p.text
  | .plain p (some d) => do
    let head ← p.text
    let value ← d.text
    return head ++ "=" ++ value
  | .slash => .ok "/"
  | .star => .ok "*"
  | .variadic p => do
    let t ← p.text
    return "*" ++ t
  | .keywordVariadic p => do
    let t ← p.text
    return "**" ++ t

def FunctionHead.signature (h : FunctionHead) : Except PrintError String := do
  let params ← h.params.items.mapM ParamItem.text
  let head := (if h.isAsync then "async def " else "def ") ++ h.name.text ++ "(" ++
    String.intercalate ", " params ++ ")"
  match h.returns with
  | some e =>
    let t ← e.text
    return head ++ " -> " ++ t
  | none => return head

/-- Text of a class keyword; an unpacked mapping has no name. -/
def Keyword.text (k : Keyword Expr) : Except PrintError String := do
  let t ← k.value.text
  return (match k.name with | some id => id.text | none => "None") ++ "=" ++ t

def ClassHead.signature (h : ClassHead) : Except PrintError String := do
  let bases ← h.bases.mapM Expr.text
  let keywords ← h.keywords.mapM Keyword.text
  let parts := bases ++ keywords
  return "class " ++ h.name.text ++
    (if parts.isEmpty then "" else "(" ++ String.intercalate ", " parts ++ ")")

def Head.name : Head → Ident
  | .function h => h.name
  | .classType h => h.name

def Head.span : Head → Span
  | .function h => h.span
  | .classType h => h.span

def Head.signature : Head → Except PrintError String
  | .function h => h.signature
  | .classType h => h.signature

end CallAtlas.Source
