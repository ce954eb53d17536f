import CallAtlas.Symbol.Basic
import CallAtlas.Text.Split

/-!
# Symbol table

All definitions of a project in the order of its files, for resolving referenced names.  A name may
have several definitions; an ID defined more than once denotes its last definition.

A referenced name is resolved, in this order, as a member of the enclosing class if its receiver is
`self` or `cls`, as an exact qualified name, by its last two components, and by its last component
alone, for dotted names only if that is unambiguous.  Definitions in the referencing file win over
the rest, and a class stands for its constructor.
-/

namespace CallAtlas

structure TableEntry where
  id : String
  symbol : Symbol
  path : String

/-- All definitions of a project. -/
structure SymbolTable where
  entries : List TableEntry

namespace SymbolTable

def ofFiles (files : List SourceFile) : SymbolTable :=
  ⟨files.flatMap fun f => f.symbols.map fun s => ⟨f.symbolId s, s, f.path⟩⟩

/-- IDs of the definitions with a simple name, in order, one for each definition. -/
def withName (t : SymbolTable) (name : String) : List String :=
  (t.entries.filter fun e => e.symbol.name = name).map (·.id)

def withQualifiedName (t : SymbolTable) (name : String) : List String :=
  (t.entries.filter fun e => e.symbol.qualifiedName = name).map (·.id)

def entry? (t : SymbolTable) (id : String) : Option TableEntry :=
  t.entries.reverse.find? fun e => e.id = id

def constructorName : String := "__init__"

/-- The function or method that an ID denotes: itself, or the constructor if it is a class. -/
def callable? (t : SymbolTable) (id : String) : Option String :=
  match t.entry? id with
  | none => none
  | some e =>
    if e.symbol.isCallable then some id
    else
      let init := id ++ "." ++ constructorName
      match t.entry? init with
      | some i => if i.symbol.isCallable then some init else none
      | none => none

def appendNew (ids : List String) (id : String) : List String :=
  if id ∈ ids then ids else ids ++ [id]

/-- The functions and methods that IDs denote, without repetitions. -/
def callables (t : SymbolTable) (ids : List String) : List String :=
  (ids.filterMap t.callable?).foldl appendNew []

/-- Receivers that stand for the enclosing class. -/
def selfReceivers : List String := ["self", "cls"]

/-- The candidates defined in the given file if there are any, otherwise all. -/
def preferFile (t : SymbolTable) (path : String) (ids : List String) : List String :=
  let own := ids.filter fun id => (t.entry? id).any fun e => e.path = path
  if own.isEmpty then ids else own

/-- The first list that is not empty. -/
def firstNonempty : List (List String) → List String
  | [] => []
  | ids :: rest => if ids.isEmpty then firstNonempty rest else ids

/-- Members of the enclosing class, for a name of two components whose receiver is `self` or
`cls`. -/
def memberCandidates (t : SymbolTable) (parts : List String) (file cls : Option String) :
    List String :=
  match parts, cls with
  | [receiver, name], some c =>
    if receiver ∈ selfReceivers ∧ c ≠ "" then
      let ids := t.withQualifiedName (c ++ "." ++ name)
      match file with
      | some path => t.preferFile path ids
      | none => ids
    else []
  | _, _ => []

/-- Definitions whose qualified name is the last two of at least three components. -/
def pairCandidates (t : SymbolTable) (parts : List String) : List String :=
  if 2 < parts.length then
    t.withQualifiedName (String.intercalate "." (parts.drop (parts.length - 2)))
  else []

/-- Definitions with the last component as simple name; a dotted name must be unambiguous unless
its receiver is `self` or `cls`. -/
def nameCandidates (t : SymbolTable) (parts : List String) : List String :=
  let ids := t.withName (parts.getLastD "")
  if parts.length = 1 ∨ parts.headD "" ∈ selfReceivers ∨ (t.callables ids).length = 1 then ids
  else []

/-- All candidates for a referenced name, before the referencing file is preferred. -/
def candidates (t : SymbolTable) (target : String) (file cls : Option String) : List String :=
  let parts := Text.split '.' target
  firstNonempty [t.memberCandidates parts file cls, t.withQualifiedName target,
    t.pairCandidates parts, t.nameCandidates parts]

/-- IDs of the functions and methods that a referenced name may denote, given the file and the
enclosing class of the reference. -/
def resolve (t : SymbolTable) (target : String) (file cls : Option String) : List String :=
  let ids := t.candidates target file cls
  let ids := match file with
    | some path => if 1 < ids.length then t.preferFile path ids else ids
    | none => ids
  t.callables ids

end SymbolTable

end CallAtlas
