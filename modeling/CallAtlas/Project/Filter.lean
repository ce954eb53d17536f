import CallAtlas.Project.Wildcard
import CallAtlas.Settings.Load
import CallAtlas.Text.Sorted

/-!
# File filters

Which files of a project are analysed.  A filter keeps files with given extensions that no pattern
excludes, that are not too large, hold no null byte near their start, and whose lines are not so long
that the file must have been generated.
-/

namespace CallAtlas.Project

inductive ProjectError where
  | settings (e : Settings.LoadError)
  | path (f : PathFault)
  | undecodable (f : Text.Utf8.Fault)
deriving DecidableEq

def ProjectError.message : ProjectError → String
  | .settings e => e.message
  | .path f => f.message
  | .undecodable f => f.message

def ofPathFault {α : Type} : Except PathFault α → Except ProjectError α
  | .ok a => .ok a
  | .error f => .error (.path f)

/-- Patterns that every filter excludes: hidden files, environments, caches and build outputs. -/
def defaultExcludes : List String :=
  [".*", "venv", "env", "site-packages", "__pycache__", "*.pyc", "node_modules", "build", "dist",
    "*.egg-info"]

/-- Extensions of source files, and the one of stubs. -/
def sourceExtension : String := ".py"
def stubExtension : String := ".pyi"

/-- A choice of files of a project. -/
structure FileFilter where
  /-- Path text of the project. -/
  project : String
  maxFileSizeBytes : Int
  binaryCheckBytes : Int
  minifiedThreshold : Int
  extensions : List String
  patterns : List String

/-- What may be chosen when a filter is made; what is not chosen comes from the settings. -/
structure FilterOptions where
  maxFileSizeKb : Option Int
  extraExcludes : List String
  ignorePath : Option String
  extensions : Option (List String)

def FilterOptions.default : FilterOptions := ⟨none, [], none, none⟩

namespace FileFilter

/-- The patterns that the lines of an ignore file give; empty lines and comments give none. -/
def ignoreLines (text : List Char) : List String :=
  ((Text.lineChars text).map Text.trimChars).filterMap fun line =>
    match line with
    | [] => none
    | '#' :: _ => none
    | line => some (String.ofList line)

/-- The patterns of the ignore file at a path, which may be missing. -/
def readIgnore (host : Host) (path : String) : Except ProjectError (List String) := do
  if ← ofPathFault (host.tree.exists? host.current path) then
    let bytes ← ofPathFault (host.tree.content host.current path)
    match Text.Utf8.strict bytes with
    | .ok text => return ignoreLines (Text.unifyLineEnds text)
    | .error f => throw (.undecodable f)
  else return []

def settingsExtensions (config : Settings.Config) : List String :=
  if config.analysis.includeStubs then [sourceExtension, stubExtension] else [sourceExtension]

def make (host : Host) (config : Settings.Config) (project : String) (options : FilterOptions) :
    Except ProjectError FileFilter := do
  let ignorePath := match options.ignorePath with
    | some path => Path.normalize path
    | none => Path.join project config.paths.ignoreFile
  let ignored ← readIgnore host ignorePath
  return {
    project := project
    maxFileSizeBytes := options.maxFileSizeKb.getD config.files.maxFileSizeKb * 1024
    binaryCheckBytes := config.files.binaryCheckBytes
    minifiedThreshold := config.files.minifiedLineLength
    extensions := (options.extensions.getD (settingsExtensions config)).map Text.lower
    patterns := defaultExcludes ++ options.extraExcludes ++ ignored }

def dropSlashes (s : String) : String :=
  String.ofList (s.toList.reverse.dropWhile (· == '/')).reverse

/-- Whether a pattern excludes a path.  A pattern that ends in a slash is compared with every
component, one with a slash inside with the path and with everything below it, and any other with
every component and the whole path. -/
def excludes (pattern path : String) : Bool :=
  let parts := Text.split '/' path
  if Text.endsWith pattern "/" then
    parts.any fun part => Wildcard.matchesText (dropSlashes pattern) part
  else if pattern.toList.contains '/' then
    Text.startsWith path (pattern ++ "/") || path == pattern ||
      Wildcard.matchesText pattern path || Wildcard.matchesText (pattern ++ "/*") path
  else
    (parts.any fun part => Wildcard.matchesText pattern part) || Wildcard.matchesText pattern path

def isExcluded (f : FileFilter) (path : String) : Bool :=
  f.patterns.any fun pattern => excludes pattern path

/-- Whether the start of a file holds a null byte. -/
def isBinary (f : FileFilter) (content : List UInt8) : Bool :=
  (content.take f.binaryCheckBytes.toNat).contains 0

def sampledLines : Nat := 20

/-- Whether the first lines of a file are too long on the average. -/
def isMinified (f : FileFilter) (content : List UInt8) : Bool :=
  let text := Text.unifyLineEnds (Text.Utf8.ignoring content)
  let lines := (Text.splitChars '\n' text).take sampledLines
  f.minifiedThreshold * (lines.length : Int) < (lines.flatten.length : Int)

/-- The extension of a file name with its point; empty if there is none. -/
def extensionOf (name : String) : String :=
  let ending := name.toList.reverse.takeWhile (· != '.')
  match name.toList.reverse.dropWhile (· != '.') with
  | _ :: _ :: _ => if ending.isEmpty then "" else String.ofList ('.' :: ending.reverse)
  | _ => ""

/-- Whether the filter keeps a file, given the components of its path from the project and its
content. -/
def keeps (f : FileFilter) (parts : List String) (content : List UInt8) : Bool :=
  f.extensions.contains (Text.lower (extensionOf (parts.getLastD ""))) &&
    !f.isExcluded (Path.joinParts parts) &&
    !(decide (f.maxFileSizeBytes < (content.length : Int))) &&
    !f.isBinary content &&
    !f.isMinified content

/-! ## Enumeration -/

def candidates (tree : FileTree) (base root : Location) : List (List String × List UInt8) :=
  match base.below? root with
  | none => []
  | some parts =>
    match tree.node? root with
    | some (.file content) => [(parts, content)]
    | _ => (tree.filesBelow root).map fun (rest, content) => (parts ++ rest, content)

/-- The kept files below roots, as sorted paths from the project.  Roots outside the project are
ignored. -/
def filesBelow (f : FileFilter) (tree : FileTree) (base : Location) (roots : List Location) :
    List String :=
  Text.sortedTexts (roots.flatMap fun root =>
    ((candidates tree base root).filter fun c => f.keeps c.1 c.2).map fun c => Path.joinParts c.1)

/-- The kept files below the given path texts, or those of the whole project. -/
def files (f : FileFilter) (host : Host) (roots : Option (List String)) :
    Except PathFault (List String) := do
  let base ← host.locate f.project
  let roots ← (roots.getD [f.project]).mapM host.locate
  return f.filesBelow host.tree base roots

end FileFilter

end CallAtlas.Project
