import CallAtlas.Source.Occurrence

/-!
# Symbols and references

What is known of a source file: the symbols it defines and the references it makes, with the
project-wide IDs `path::qualified.name`.
-/

namespace CallAtlas

inductive SymbolKind where
  | function
  | method
  | classType
deriving DecidableEq

def SymbolKind.text : SymbolKind → String
  | .function => "function"
  | .method => "method"
  | .classType => "class"

/-- A function, method or class that a file defines. -/
structure Symbol where
  name : String
  kind : SymbolKind
  firstLine : Nat
  lastLine : Nat
  signature : Option String
  /-- Dotted name of the enclosing definitions. -/
  parent : Option String
deriving DecidableEq

/-- A name qualified by its enclosing definitions, if there are any. -/
def qualify (parent : Option String) (name : String) : String :=
  match parent with
  | some p => if p = "" then name else p ++ "." ++ name
  | none => name

namespace Symbol

def qualifiedName (s : Symbol) : String :=
  qualify s.parent s.name

def isCallable (s : Symbol) : Bool :=
  s.kind != .classType

end Symbol

/-- The project-wide ID of a qualified name in a file. -/
def makeId (path qualified : String) : String :=
  path ++ "::" ++ qualified

/-- The name that stands for the code of a file outside all definitions. -/
def moduleScopeName : String := "<module>"

/-- A mention of a name, not yet resolved. -/
structure Reference where
  /-- ID of the innermost enclosing function, or the module scope. -/
  source : String
  target : String
  kind : Source.ReferenceKind
  line : Nat
  /-- IDs of the enclosing functions, innermost first. -/
  enclosing : List String
  /-- Qualified name of the nearest enclosing class. -/
  enclosingClass : Option String
deriving DecidableEq

/-- A source file with its symbols and references. -/
structure SourceFile where
  path : String
  symbols : List Symbol
  references : List Reference
deriving DecidableEq

def SourceFile.symbolId (file : SourceFile) (s : Symbol) : String :=
  makeId file.path s.qualifiedName

end CallAtlas
