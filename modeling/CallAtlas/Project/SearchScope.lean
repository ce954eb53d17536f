import CallAtlas.Project.TestFile
import CallAtlas.Text.Split

/-!
# Search scopes

The part of a project in which references are searched.
-/

namespace CallAtlas.Project

/-- A boundary for searches: paths from the project's root, the empty one standing for the whole
project. -/
structure SearchScope where
  roots : List String
  excludeTests : Bool

namespace SearchScope

def wholeProject : SearchScope := ⟨[""], false⟩

def isEmpty (s : SearchScope) : Bool := s.roots.isEmpty

/-- Whether a path equals a root or lies below it. -/
def covers (root path : String) : Bool :=
  root == "" || path == root || Text.startsWith path (root ++ "/")

def contains (s : SearchScope) (path : String) : Bool :=
  !(s.excludeTests && isTestFile path) && s.roots.any fun root => covers root path

end SearchScope

/-- The top directory of a path of the project; none for files at the project's root. -/
def topDirectory? (path : String) : Option String :=
  match Text.split '/' path with
  | first :: _ :: _ => some first
  | _ => none

end CallAtlas.Project
