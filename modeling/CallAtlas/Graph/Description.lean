import CallAtlas.Graph.Basic
import CallAtlas.Text.Alphanumeric
import CallAtlas.Text.Digit
import CallAtlas.Text.LetterCase
import CallAtlas.Text.Search

/-!
# Graph descriptions

What a layout program is told about a call graph: its nodes in the order of their names, then the
edges of each of them in the same order.
-/

namespace CallAtlas

/-- A graph as a layout program sees it. -/
structure Description where
  rankDir : String
  /-- Nodes with their labels. -/
  nodes : List (String × String)
  edges : List (String × String)

namespace Description

def sortedCallees (g : CallGraph) (n : GraphNode) : List GraphNode :=
  CallGraph.sortNodes (n.leaving.filterMap fun e => g.node? e.target)

def ofGraph (g : CallGraph) (rankDir : String) : Description :=
  let nodes := g.sortedNodes
  { rankDir := rankDir
    nodes := nodes.map fun n => (n.id, n.method.name)
    edges := nodes.flatMap fun n => (sortedCallees g n).map fun callee => (n.id, callee.id) }

def keywords : List String := ["graph", "subgraph", "digraph", "node", "edge", "strict"]

def isNumeral (s : List Char) : Bool :=
  let whole := s.takeWhile Char.isDigit
  match s.dropWhile Char.isDigit with
  | [] => !whole.isEmpty
  | '.' :: fraction => fraction.all Char.isDigit && (!whole.isEmpty || !fraction.isEmpty)
  | _ => false

/-- Whether a text of at least two characters stands between two given ones. -/
def isBetween (first last : Char) (s : List Char) : Bool :=
  match s with
  | c :: rest => c == first && rest.getLast? == some last
  | [] => false

/-- Whether a value can stand without quotes: letters and numerals that do not start with a digit
unless there are only digits, numbers, and what is already quoted or marked up. -/
def isPlain (s : List Char) : Bool :=
  if s.isEmpty then false
  else if s.all Text.isDigitLike then true
  else if s.all Text.isAlphanumeric then !(s.head?.any Text.isDigitLike)
  else (Text.endings s).any fun s => isNumeral s || isBetween '"' '"' s || isBetween '<' '>' s

def quoteChar : Char → List Char
  | '"' => ['\\', '"']
  | '\n' => ['\\', 'n']
  | '\r' => ['\\', 'r']
  | c => [c]

/-- A value of an attribute. -/
def value (s : String) : String :=
  if !keywords.contains (Text.lower s) && isPlain s.toList then s
  else String.ofList ('"' :: s.toList.flatMap quoteChar ++ ['"'])

def text (d : Description) : String :=
  "digraph G \x7b\nrankdir=" ++ value d.rankDir ++ ";\n" ++
    String.join (d.nodes.map fun (id, label) => id ++ " [label=" ++ value label ++ "];\n") ++
    String.join (d.edges.map fun (source, target) => source ++ " -> " ++ target ++ ";\n") ++
    "\x7d\n"

end Description

end CallAtlas
