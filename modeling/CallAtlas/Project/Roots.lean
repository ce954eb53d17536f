import CallAtlas.Project.Filter
import CallAtlas.Project.SearchScope
import CallAtlas.Project.Selection

/-!
# Source roots

What a selection means in a project: the roots whose files are enumerated, and the scope in which
references are searched.
-/

namespace CallAtlas.Project

/-- A top directory of a project that holds a source file. -/
structure SourceModule where
  name : String
  /-- Path text of the directory. -/
  root : String

def modulesOf (project : String) (files : List String) : List SourceModule :=
  (Text.sortedTexts (files.filterMap topDirectory?)).map fun name =>
    ⟨name, Path.join project name⟩

def discoverModules (host : Host) (filter : FileFilter) : Except PathFault (List SourceModule) := do
  return modulesOf filter.project (← filter.files host none)

def selectedModules (modules : List SourceModule) (name : Option String) : List SourceModule :=
  modules.filter fun m => some m.name = name

/-- The location of a selected directory; none if the text is blank or does not denote something
that exists inside the project. -/
def resolveDirectory (host : Host) (project : String) (directory : Option String) :
    Except PathFault (Option Location) := do
  let text := Text.trim (directory.getD "")
  if text = "" then return none
  let expanded ← host.expandHome text
  let path := Path.join project expanded
  let location ← host.locate path
  if !(← host.tree.exists? [] location.text) then return none
  let base ← host.locate project
  if base.isPrefixOf location then return some location else return none

/-- Whether the roots of a kind of selection depend on the files of the project. -/
def ScopeKind.needsModules : ScopeKind → Bool
  | .withoutTests => true
  | .oneModule => true
  | _ => false

def sourceRoots (host : Host) (project : String) (filter : Except ProjectError FileFilter)
    (selection : Selection) : Except ProjectError (List Location) := do
  let located (modules : List SourceModule) : Except ProjectError (List Location) :=
    modules.mapM fun m => ofPathFault (host.locate m.root)
  match selection.kind with
  | .withTests => return [← ofPathFault (host.locate project)]
  | .withoutTests => located (← ofPathFault (discoverModules host (← filter)))
  | .oneModule =>
    let modules ← ofPathFault (discoverModules host (← filter))
    located (selectedModules modules selection.moduleName)
  | .oneDirectory =>
    return (← ofPathFault (resolveDirectory host project selection.directory)).toList

/-- The path of a location from the project's location, empty for the project itself. -/
def relativePath (base root : Location) : String :=
  Path.joinParts ((base.below? root).getD [])

/-- The scope in which a selection searches references. -/
def searchScope (host : Host) (project : String) (filter : Except ProjectError FileFilter)
    (selection : Selection) : Except ProjectError SearchScope := do
  let base ← ofPathFault (host.locate project)
  let roots ← sourceRoots host project filter selection
  return ⟨roots.map (relativePath base), selection.kind = .withoutTests⟩

end CallAtlas.Project
