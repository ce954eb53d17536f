import CallAtlas.Service.Application

/-!
# Messages of the service

The text of requests and answers as they are exchanged with a client.
-/

namespace CallAtlas.Service.Wire

def quote (s : String) : String :=
  let char (c : Char) : List Char :=
    if c == '"' || c == '\\' then ['\\', c]
    else if c == '\n' then ['\\', 'n']
    else if c == '\r' then ['\\', 'r']
    else if c == '\t' then ['\\', 't']
    else if c.toNat < 32 then '\\' :: 'u' :: Text.hexDigits 4 c.toNat
    else [c]
  String.ofList ('"' :: s.toList.flatMap char ++ ['"'])

def list (items : List String) : String :=
  "[" ++ String.intercalate "," items ++ "]"

def record (members : List (String × String)) : String :=
  "\x7b" ++ String.intercalate "," (members.map fun m => quote m.1 ++ ":" ++ m.2) ++ "\x7d"

def optional {α : Type} (write : α → String) : Option α → String
  | some a => write a
  | none => "null"

def node (n : GraphNode) : String :=
  record [("id", quote n.id), ("method_id", quote n.method.id), ("name", quote n.method.name),
    ("qualified_name", quote n.method.qualifiedName), ("file_path", quote n.method.filePath),
    ("line_start", toString n.method.lineStart), ("line_end", toString n.method.lineEnd),
    ("signature", optional quote n.method.signature),
    ("x", optional (fun p => Decimal.text p.x) n.position),
    ("y", optional (fun p => Decimal.text p.y) n.position)]

def edge (e : GraphEdge) : String :=
  record [("id", quote e.id), ("source", quote e.source), ("target", quote e.target)]

def result (r : RunResult) : String :=
  let graph := r.graph.getD .empty
  record [("status", quote r.status.text), ("source_label", quote r.sourceLabel),
    ("message", optional quote r.message), ("method_count", toString r.methodCount),
    ("caller_count", toString r.callerCount), ("nodes", list (graph.sortedNodes.map node)),
    ("edges", list (graph.sortedEdges.map edge))]

def issue (i : Issue) : String :=
  record [("type", quote i.kind.text), ("loc", list (i.location.map quote))]

def content : Content → String
  | .healthy => record [("status", quote "healthy")]
  | .modules names => record [("modules", list (names.map quote))]
  | .graph r => result r
  | .detail message => record [("detail", quote message)]
  | .issues issues => record [("detail", list (issues.map issue))]
  | .text s => s

def reason (status : Nat) : String :=
  match status with
  | 200 => "OK"
  | 307 => "Temporary Redirect"
  | 400 => "Bad Request"
  | 404 => "Not Found"
  | 405 => "Method Not Allowed"
  | 409 => "Conflict"
  | 422 => "Unprocessable Entity"
  | 503 => "Service Unavailable"
  | _ => "Internal Server Error"

def contentType : Content → String
  | .text _ => "text/plain; charset=utf-8"
  | _ => "application/json"

def response (r : Response) : String :=
  let body := content r.content
  "HTTP/1.1 " ++ toString r.status ++ " " ++ reason r.status ++ "\r\ncontent-type: " ++
    contentType r.content ++ "\r\ncontent-length: " ++ toString body.utf8ByteSize ++ "\r\n\r\n" ++
    body

/-! ## Requests -/

def requestLine (line : String) : String × String :=
  match Text.split ' ' (Text.trim line) with
  | method :: target :: _ => (method, target)
  | _ => ("", "")

/-- The length of the body that a line of a request's head announces. -/
def announcedLength? (line : String) : Option Nat :=
  match Text.split ':' line with
  | [name, value] =>
    if Text.lower (Text.trim name) = "content-length" then (Text.trim value).toNat? else none
  | _ => none

end CallAtlas.Service.Wire
