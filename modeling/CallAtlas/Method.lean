import CallAtlas.Symbol.Basic

/-!
# Methods

A function or method of the analysed project.  Its ID alone identifies it; the rest describes it.
-/

namespace CallAtlas

/-- A function or method with its description. -/
structure Method where
  id : String
  name : String
  filePath : String
  lineStart : Int
  lineEnd : Int
  /-- Dotted name of the enclosing definitions. -/
  parent : Option String
  signature : Option String
deriving DecidableEq

namespace Method

def qualifiedName (m : Method) : String :=
  qualify m.parent m.name

/-- The parts of a list of characters around the first pair of colons. -/
def splitColons : List Char → List Char × Option (List Char)
  | [] => ([], none)
  | ':' :: ':' :: rest => ([], some rest)
  | c :: rest =>
    let (before, after) := splitColons rest
    (c :: before, after)

/-- The parts of a list of characters around its last point. -/
def splitLastPoint (s : List Char) : List Char × List Char :=
  match s.reverse.dropWhile (· != '.') with
  | _ :: before => (before.reverse, (s.reverse.takeWhile (· != '.')).reverse)
  | [] => ([], s)

/-- The method that an ID describes: the file stands before the first pair of colons, and the rest
is a name qualified by its enclosing definitions. -/
def ofId (id : String) : Method :=
  let (file, rest) := splitColons id.toList
  let (parent, name) := splitLastPoint (rest.getD [])
  { id := id
    name := String.ofList name
    filePath := String.ofList file
    lineStart := 0
    lineEnd := 0
    parent := if parent.isEmpty then none else some (String.ofList parent)
    signature := none }

def ofSymbol (path id : String) (s : Symbol) : Method :=
  { id := id
    name := s.name
    filePath := path
    lineStart := s.firstLine
    lineEnd := s.lastLine
    parent := s.parent
    signature := s.signature }

end Method

end CallAtlas
