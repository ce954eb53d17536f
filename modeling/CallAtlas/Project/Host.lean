import CallAtlas.Project.Tree

/-!
# Hosts

What a program learns from the machine it runs on: its files, its current directory, its environment
variables and the home directories of its accounts.
-/

namespace CallAtlas.Project

/-- The machine a program runs on. -/
structure Host where
  tree : FileTree
  current : Location
  environment : List (String × String)
  /-- Home directory of the account that runs the program. -/
  ownHome : String
  /-- Home directories by account name. -/
  homes : List (String × String)

namespace Host

def lookupVariable (h : Host) (name : String) : Option String :=
  h.environment.lookup name

/-- The value of an environment variable that is set to a text that is not empty. -/
def setting? (h : Host) (name : String) : Option String :=
  match h.lookupVariable name with
  | some value => if value = "" then none else some value
  | none => none

/-- The home directory that `~`, followed by an account name or nothing, stands for. -/
def home (h : Host) (account : List Char) : Except PathFault String :=
  if account.contains '\x00' then .error .nullByte
  else
    let text := if account.isEmpty then some ((h.lookupVariable "HOME").getD h.ownHome)
      else h.homes.lookup (String.ofList account)
    match text with
    | none => .error .unknownHome
    | some text =>
      match (text.toList.reverse.dropWhile (· == '/')).reverse with
      | [] => .ok "/"
      | '~' :: _ => .error .unknownHome
      | cs => .ok (String.ofList cs)

/-- A path text whose leading `~` or `~name` is replaced by a home directory. -/
def expandHome (h : Host) (path : String) : Except PathFault String :=
  match Path.root path, Path.parts path with
  | "", first :: rest =>
    match first.toList with
    | '~' :: account => do
      let home ← h.home account
      return Path.join home (Path.joinParts rest)
    | _ => .ok path
  | _, _ => .ok path

def locate (h : Host) (path : String) : Except PathFault Location :=
  Location.resolve h.current path

end Host

end CallAtlas.Project
