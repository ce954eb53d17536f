import CallAtlas.Resolver.Basic
import CallAtlas.Symbol.Extract
import CallAtlas.Symbol.Table

/-!
# Project index

The methods of all source files of a project with the resolved mentions between them.
-/

namespace CallAtlas

open Project (SearchScope Host FileFilter)

/-- Methods and resolved mentions of a project. -/
structure ProjectIndex where
  /-- Paths of the files that could be read. -/
  files : List String
  /-- Methods by ID, in the order of their first definitions. -/
  methods : List (String × Method)
  /-- A mentioned method with the site, one pair for each method that a mention may denote. -/
  sites : List (String × Site)
  /-- A method with a method that its body mentions. -/
  calls : List (String × String)

namespace ProjectIndex

def put {α : Type} (key : String) (value : α) : List (String × α) → List (String × α)
  | [] => [(key, value)]
  | (k, v) :: rest => if k = key then (k, value) :: rest else (k, v) :: put key value rest

def fileMethods (file : SourceFile) : List (String × Method) :=
  (file.symbols.filter Symbol.isCallable).map fun s =>
    (file.symbolId s, Method.ofSymbol file.path (file.symbolId s) s)

/-- The methods of all files; the last definition of an ID counts. -/
def collectMethods (files : List SourceFile) : List (String × Method) :=
  (files.flatMap fileMethods).foldl (fun ms m => put m.1 m.2 ms) []

/-- What a reference resolves to. -/
structure Resolved where
  site : Site
  /-- The innermost enclosing function. -/
  source : Option String
  targets : List String

def resolveFile (table : SymbolTable) (known : String → Bool) (file : SourceFile) :
    List Resolved :=
  file.references.map fun ref =>
    { site := ⟨file.path, ref.line, ref.target, ref.kind, ref.enclosing.filter known⟩
      source := ref.enclosing.head?
      targets := table.resolve ref.target (some file.path) ref.enclosingClass }

def ofFiles (files : List SourceFile) : ProjectIndex :=
  let table := SymbolTable.ofFiles files
  let methods := collectMethods files
  let known (id : String) : Bool := methods.any fun m => m.1 = id
  let resolved := files.flatMap (resolveFile table known)
  { files := files.map (·.path)
    methods := methods
    sites := resolved.flatMap fun r => r.targets.map fun t => (t, r.site)
    calls := resolved.flatMap fun r =>
      match r.source with
      | some source => r.targets.map fun t => (source, t)
      | none => [] }

def sitesOf (index : ProjectIndex) (id : String) : List Site :=
  (index.sites.filter fun s => s.1 = id).map (·.2)

def calleesOf (index : ProjectIndex) (id : String) : List String :=
  ((index.calls.filter fun c => c.1 = id).map (·.2)).eraseDups

def resolver (index : ProjectIndex) (maxNestingDepth : Int) : FiniteResolver where
  maxNestingDepth := maxNestingDepth
  methodsIn scope := .ok
    ((index.methods.filter fun m => scope.contains m.2.filePath).map (·.1))
  references id scope := .ok ((index.sitesOf id).filter fun s => scope.contains s.filePath)
  callees id := .ok (index.calleesOf id)
  method? id := .ok (index.methods.lookup id)
  finite := by
    refine ⟨index.sites.flatMap (·.2.enclosing) ++ index.calls.map (·.2), ?_, ?_⟩
    · intro id scope sites h site hsite m hm
      obtain rfl := Except.ok.inj h
      obtain ⟨s, hs, rfl⟩ := List.mem_map.1 (List.mem_filter.1 hsite).1
      have hs := (List.mem_filter.1 hs).1
      exact List.mem_append_left _ (List.mem_flatMap.2 ⟨s, hs, hm⟩)
    · intro id found h m hm
      obtain rfl := Except.ok.inj h
      obtain ⟨c, hc, rfl⟩ := List.mem_map.1 (List.mem_eraseDups.1 hm)
      exact List.mem_append_right _ (List.mem_map_of_mem ((List.mem_filter.1 hc).1))

/-- Reads a file of a project; none if it is not well formed. -/
def readFile (host : Host) (project path : String) :
    Except QueryError (Option SourceFile) :=
  match host.tree.content host.current (Project.Path.join project path) with
  | .error _ => .ok none
  | .ok bytes =>
    let text := String.ofList (Text.unifyLineEnds (Text.Utf8.replacing bytes))
    match SourceFile.parse (Project.Path.normalize path) text with
    | .ok file => .ok file
    | .error e => .error (.unprintable e)

/-- The index of the files that a filter keeps. -/
def build (host : Host) (filter : FileFilter) : Except QueryError ProjectIndex := do
  match filter.files host none with
  | .error f => throw (.project (.path f))
  | .ok paths =>
    let files ← paths.mapM (readFile host filter.project)
    return ofFiles (files.filterMap id)

end ProjectIndex

end CallAtlas
