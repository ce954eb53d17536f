import CallAtlas.Source.Module
import CallAtlas.Source.Signature
import CallAtlas.Symbol.Basic

/-!
# Symbols and references of a source text

A source text is read, walked, and what the walk finds becomes the symbols and references of a
file.
-/

namespace CallAtlas

open Source

/-- Kind of the symbol for a definition: a function directly inside a class is a method. -/
def symbolKind (frames : List Frame) : Head → SymbolKind
  | .classType _ => .classType
  | .function _ =>
    match frames with
    | f :: _ => if f.kind = .classType then .method else .function
    | [] => .function

/-- Dotted name of the enclosing definitions; none at the top of a module. -/
def parentName (frames : List Frame) : Option String :=
  if frames.isEmpty then none else some (Ident.dotted (Frame.path frames))

def Symbol.ofDefinition (frames : List Frame) (head : Head) : Except PrintError Symbol := do
  let signature ← head.signature
  return {
    name := head.name.text
    kind := symbolKind frames head
    firstLine := head.span.first
    lastLine := head.span.last
    signature := some signature
    parent := parentName frames }

def Reference.ofOccurrence (path : String) (frames : List Frame) (o : Occurrence) : Reference :=
  let enclosing := (Frame.functions frames).map fun p => makeId path (Ident.dotted p)
  { source := enclosing.headD (makeId path moduleScopeName)
    target := Ident.dotted o.target
    kind := o.kind
    line := o.line
    enclosing := enclosing
    enclosingClass := (Frame.nearestClass frames).map Ident.dotted }

/-- Symbols among the findings of a walk; fails with the first definition that has no signature. -/
def symbolsOf (findings : List Finding) : Except PrintError (List Symbol) :=
  (findings.filterMap fun
    | .definition frames head => some (frames, head)
    | .reference .. => none).mapM fun d => Symbol.ofDefinition d.1 d.2

def referencesOf (path : String) (findings : List Finding) : List Reference :=
  findings.filterMap fun
    | .reference frames o => some (Reference.ofOccurrence path frames o)
    | .definition .. => none

def SourceFile.ofModule (path : String) (body : List Stmt) : Except PrintError SourceFile := do
  let findings := moduleFindings body
  let symbols ← symbolsOf findings
  return ⟨path, symbols, referencesOf path findings⟩

/-- The file with the given text; nothing if the text is not well formed. -/
def SourceFile.parse (path text : String) : Except PrintError (Option SourceFile) :=
  match parseModule? text with
  | some body => (SourceFile.ofModule path body).map some
  | none => .ok none

end CallAtlas
