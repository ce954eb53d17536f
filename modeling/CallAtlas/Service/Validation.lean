import CallAtlas.Run.Basic
import CallAtlas.Service.Body

/-!
# Validating request bodies

What a request body must hold, and the list of everything that is wrong with it.
-/

namespace CallAtlas.Service

open Project (Selection)

inductive IssueKind where
  | missing
  | stringType
  | stringTooShort
  | notAMember
  | invalidValue
  | invalidJson
  | notARecord
deriving DecidableEq

def IssueKind.text : IssueKind → String
  | .missing => "missing"
  | .stringType => "string_type"
  | .stringTooShort => "string_too_short"
  | .notAMember => "enum"
  | .invalidValue => "value_error"
  | .invalidJson => "json_invalid"
  | .notARecord => "model_attributes_type"

/-- A fault of a body, with the path of names that leads to it. -/
structure Issue where
  location : List String
  kind : IssueKind
deriving DecidableEq

def Issue.ofBody (kind : IssueKind) : Issue := ⟨["body"], kind⟩

abbrev Members := List (String × Json)

/-- Names a member as the place of a fault. -/
def located {α : Type} (name : String) : Except IssueKind α → Except Issue α
  | .ok a => .ok a
  | .error kind => .error ⟨["body", name], kind⟩

def readSelection (members : Members) : Except Issue Selection :=
  located "scope" <|
    match Json.member? members "scope" with
    | none => .ok .wholeProject
    | some (.text s) =>
      match Selection.parse s with
      | .ok selection => .ok selection
      | .error _ => .error .invalidValue
    | some _ => .error .stringType

def readMethodId (members : Members) : Except Issue String :=
  located "method_id" <|
    match Json.member? members "method_id" with
    | none => .error .missing
    | some (.text s) => if s = "" then .error .stringTooShort else .ok s
    | some _ => .error .stringType

def readDirection (members : Members) : Except Issue Direction :=
  located "direction" <|
    match Json.member? members "direction" with
    | none => .ok .both
    | some (.text s) =>
      match Direction.ofText? s with
      | some d => .ok d
      | none => .error .notAMember
    | some _ => .error .notAMember

def issue? {α : Type} : Except Issue α → List Issue
  | .ok _ => []
  | .error i => [i]

def scopeRequest (members : Members) : Except (List Issue) RunRequest :=
  match readSelection members with
  | .ok selection => .ok ⟨selection, none, .both⟩
  | .error i => .error [i]

/-- The request to analyse what is around one method. -/
def focusRequest (members : Members) : Except (List Issue) RunRequest :=
  let selection := readSelection members
  let methodId := readMethodId members
  let direction := readDirection members
  match selection, methodId, direction with
  | .ok selection, .ok id, .ok direction => .ok ⟨selection, some id, direction⟩
  | _, _, _ => .error (issue? selection ++ issue? methodId ++ issue? direction)

def readRequest (focused : Bool) (body : Json) : Except (List Issue) RunRequest :=
  match body with
  | .null => .error [.ofBody .missing]
  | .record members => if focused then focusRequest members else scopeRequest members
  | _ => .error [.ofBody .notARecord]

end CallAtlas.Service
