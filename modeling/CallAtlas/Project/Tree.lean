import CallAtlas.Project.Path
import CallAtlas.Text.Quoted

/-!
# File trees

The files and directories a program can see, as a value.  A location is the list of components of an
absolute path.  A path text is resolved to a location either by its text alone, where `..` removes
the component before it, or by walking through the tree, where every component passed must be an
existing directory.
-/

namespace CallAtlas.Project

/-- Components of an absolute path without `.` and `..`. -/
abbrev Location := List String

inductive Node where
  | file (content : List UInt8)
  | directory

def Node.isDirectory : Node → Bool
  | .directory => true
  | .file _ => false

/-- Files and directories by location. -/
structure FileTree where
  entries : List (Location × Node)

/-- Why a path cannot be looked up. -/
inductive PathFault where
  | nullByte
  | nameTooLong (path : String)
  | unknownHome
  | isDirectory (path : String)
  | missing (path : String)
deriving DecidableEq

def PathFault.message : PathFault → String
  | .nullByte => "embedded null byte"
  | .nameTooLong path => "[Errno 36] File name too long: " ++ Text.quoted path
  | .unknownHome => "Could not determine home directory."
  | .isDirectory path => "[Errno 21] Is a directory: " ++ Text.quoted path
  | .missing path => "[Errno 2] No such file or directory: " ++ Text.quoted path

namespace Location

def text (l : Location) : String :=
  "/" ++ Path.joinParts l

/-- The location a component leads to from another one. -/
def enter (l : Location) (part : String) : Location :=
  if part = ".." then l.dropLast else l ++ [part]

/-- The location of a path text seen from a current directory, by its text alone. -/
def ofPath (current : Location) (path : String) : Location :=
  (Path.parts path).foldl enter (if Path.root path = "" then current else [])

/-- Like `ofPath`; a path that holds a null character cannot be resolved. -/
def resolve (current : Location) (path : String) : Except PathFault Location :=
  if path.toList.contains '\x00' then .error .nullByte else .ok (ofPath current path)

/-- The part of a location below another one; `none` if it does not lie below it. -/
def below? (base : Location) (l : Location) : Option (List String) :=
  if base.isPrefixOf l then some (l.drop base.length) else none

end Location

namespace FileTree

/-- What stands at a location; the top is always a directory. -/
def node? (t : FileTree) (l : Location) : Option Node :=
  if l = [] then some .directory else t.entries.lookup l

/-- Longest name of a file or directory, in bytes. -/
def nameLimit : Nat := 255

/-- Longest path text, in bytes. -/
def pathLimit : Nat := 4095

/-- Walks through the tree from a location; `none` if a component is missing.  `path` is the text
that is being looked up. -/
def walk (t : FileTree) (path : String) : Location → List String →
    Except PathFault (Option (Location × Node))
  | l, [] => .ok ((t.node? l).map fun n => (l, n))
  | l, part :: rest =>
    match t.node? l with
    | some .directory =>
      if nameLimit < part.utf8ByteSize then .error (.nameTooLong path)
      else walk t path (l.enter part) rest
    | _ => .ok none

/-- What a path text denotes, seen from a current directory. -/
def find (t : FileTree) (current : Location) (path : String) :
    Except PathFault (Option (Location × Node)) :=
  if path.toList.contains '\x00' then .ok none
  else if pathLimit < path.utf8ByteSize then .error (.nameTooLong path)
  else walk t path (if Path.root path = "" then current else []) (Path.parts path)

def exists? (t : FileTree) (current : Location) (path : String) : Except PathFault Bool := do
  return (← t.find current path).isSome

def content (t : FileTree) (current : Location) (path : String) :
    Except PathFault (List UInt8) := do
  match ← t.find current path with
  | some (_, .file bytes) => return bytes
  | some (_, .directory) => throw (.isDirectory path)
  | none => throw (.missing path)

def filesBelow (t : FileTree) (l : Location) : List (List String × List UInt8) :=
  t.entries.filterMap fun
    | (loc, .file content) =>
      match l.below? loc with
      | some (part :: rest) => some (part :: rest, content)
      | _ => none
    | (_, .directory) => none

def put (t : FileTree) (l : Location) (n : Node) : FileTree :=
  ⟨t.entries.filter (fun e => e.1 ≠ l) ++ [(l, n)]⟩

/-- Makes a directory and those above it; what exists already stays. -/
def makeDirectory (t : FileTree) (l : Location) : FileTree :=
  (List.range l.length).foldl
    (fun t n =>
      let above := l.take (n + 1)
      if (t.node? above).isSome then t else t.put above .directory)
    t

/-- Writes a file and makes the directories above it. -/
def write (t : FileTree) (l : Location) (content : List UInt8) : FileTree :=
  (t.makeDirectory l.dropLast).put l (.file content)

def delete (t : FileTree) (l : Location) : FileTree :=
  ⟨t.entries.filter fun e => !l.isPrefixOf e.1⟩

end FileTree

end CallAtlas.Project
