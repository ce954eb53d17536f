import CallAtlas.Text.Split

/-!
# Paths

Paths are texts with slashes between their components.  The written form of a path has no empty
component and no `.` component, except that exactly two leading slashes are kept.
-/

namespace CallAtlas.Project.Path

def components (path : String) : List String :=
  Text.split '/' path

/-- The components that count. -/
def parts (path : String) : List String :=
  (components path).filter fun part => part ≠ "" ∧ part ≠ "."

/-- The root of a path text: empty if the path is relative, two slashes if it starts with exactly
two, one otherwise. -/
def root (path : String) : String :=
  match path.toList with
  | '/' :: '/' :: '/' :: _ => "/"
  | '/' :: '/' :: _ => "//"
  | '/' :: _ => "/"
  | _ => ""

def joinParts (parts : List String) : String :=
  String.intercalate "/" parts

def normalize (path : String) : String :=
  let text := root path ++ joinParts (parts path)
  if text = "" then "." else text

/-- The path of an entry below a directory; an absolute entry stands for itself. -/
def join (directory entry : String) : String :=
  if root entry = "" then
    let text := root directory ++ joinParts (parts directory ++ parts entry)
    if text = "" then "." else text
  else normalize entry

end CallAtlas.Project.Path
