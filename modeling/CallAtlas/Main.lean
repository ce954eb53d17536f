import CallAtlas.Service.Wire

/-!
# The command

Serves requests that arrive on standard input, one after the other, and writes the answers to
standard output.  The files of the workspace are read anew for every request.
-/

open CallAtlas
open CallAtlas.Project
open CallAtlas.Settings
open CallAtlas.Service

def watchedVariables : List String :=
  ["HOME", "WORKSPACE_PATH", "WORKSPACE_DISPLAY_PATH", "CALLSCOPE_CONFIG",
    "CALLSCOPE_MAX_WORKERS", "CALLSCOPE_LAYOUT_PROG", "CALLSCOPE_HOST", "CALLSCOPE_PORT"]

/-- Adds everything below a directory to a tree. -/
partial def readBelow (path : String) (location : Location) (tree : FileTree) : IO FileTree := do
  let mut tree := tree.makeDirectory location
  for entry in ← (← IO.FS.realPath path).readDir do
    let below := location ++ [entry.fileName]
    if ← entry.path.isDir then
      tree ← readBelow entry.path.toString below tree
    else
      tree := tree.write below (← IO.FS.readBinFile entry.path).toList
  return tree

/-- The machine as it is now, with the files below the workspace. -/
def readHost : IO Host := do
  let environment ← watchedVariables.filterMapM fun name => do
    return (← IO.getEnv name).map fun value => (name, value)
  let current := Location.ofPath [] (← IO.currentDir).toString
  let home := (environment.lookup "HOME").getD "/"
  let tree ← match environment.lookup "WORKSPACE_PATH" with
    | some path => readBelow path (Location.ofPath current path) ⟨[]⟩
    | none => pure ⟨[]⟩
  return ⟨tree, current, environment, home, []⟩

/-- Reads the head of a request up to the empty line; the length of the body it announces. -/
partial def readHead (input : IO.FS.Stream) (length : Nat) : IO Nat := do
  let line ← input.getLine
  if (Text.trim line).isEmpty then return length
  readHead input ((Wire.announcedLength? line).getD length)

partial def serveRequests (input output : IO.FS.Stream) (app : Application) : IO Unit := do
  let line ← input.getLine
  if line.isEmpty then return ()
  let (method, target) := Wire.requestLine line
  let length ← readHead input 0
  let body := String.ofList (Text.Utf8.replacing (← input.read length.toUSize).toList)
  let app := { app with session := { app.session with host := ← readHost } }
  let (response, app) := app.answer method target body
  output.putStr (Wire.response response)
  output.flush
  serveRequests input output app

def main : IO UInt32 := do
  match Application.start (Session.start (← readHost)) none with
  | .error e =>
    IO.eprintln e.message
    return 1
  | .ok app =>
    serveRequests (← IO.getStdin) (← IO.getStdout) app
    return 0
