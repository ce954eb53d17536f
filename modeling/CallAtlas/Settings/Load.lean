import CallAtlas.Decimal.Numeral
import CallAtlas.Project.Host
import CallAtlas.Settings.Basic
import CallAtlas.Text.Stream

/-!
# Loading settings

Settings come from a settings file and a few environment variables; what neither sets has its
default.  Every value is checked against its type and its bounds, section by section and key by key,
and the first fault is reported.
-/

namespace CallAtlas.Settings

open Project

/-- Why settings cannot be loaded. -/
inductive LoadError where
  | workspaceUnset
  | issue (i : Issue)
  /-- The settings file at the path is at fault. -/
  | ini (source : String) (e : IniError)
  /-- The settings file is not text. -/
  | undecodable (f : Text.Utf8.Fault)
  | path (f : PathFault)
deriving DecidableEq

/-- Whether an error is one that falling back to the defaults is meant for. -/
def LoadError.isDeclared : LoadError → Bool
  | .ini .. => false
  | _ => true

def LoadError.message : LoadError → String
  | .workspaceUnset => "WORKSPACE_PATH environment variable must be set"
  | .issue i => i.message
  | .ini source e => e.message source
  | .undecodable f => f.message
  | .path f => f.message

/-! ## One setting -/

/-- A settings file with the path it was read from. -/
structure SettingsFile where
  path : String
  ini : Ini

def SettingsFile.get (file : SettingsFile) (sect key : String) : Except LoadError (Option String) :=
  match file.ini.get sect key with
  | .ok value => .ok value
  | .error e => .error (.ini file.path e)

def IntegerField.check (f : IntegerField) (n : Int) : Except LoadError Int :=
  if n < f.least then
    .error (.issue (.belowMinimum f.sect f.key (toString n) (toString f.least)))
  else if f.greatest < n then
    .error (.issue (.aboveMaximum f.sect f.key (toString n) (toString f.greatest)))
  else .ok n

def IntegerField.load (f : IntegerField) (file : SettingsFile) : Except LoadError Int := do
  match ← file.get f.sect f.key with
  | none => f.check f.default
  | some raw =>
    match Decimal.readInteger raw with
    | .ok n => f.check n
    | .error _ => throw (.issue (.invalidValue f.sect f.key raw "int"))

def NumberField.check (f : NumberField) (x : Float) : Except LoadError Float :=
  if x < f.least then
    .error (.issue (.belowMinimum f.sect f.key (Decimal.text x) (Decimal.text f.least)))
  else if f.greatest < x then
    .error (.issue (.aboveMaximum f.sect f.key (Decimal.text x) (Decimal.text f.greatest)))
  else .ok x

def NumberField.load (f : NumberField) (file : SettingsFile) : Except LoadError Float := do
  match ← file.get f.sect f.key with
  | none => f.check f.default
  | some raw =>
    match Decimal.readNumber raw with
    | some x => f.check x
    | none => throw (.issue (.invalidValue f.sect f.key raw "float"))

def truthTexts : List String := ["true", "1", "yes", "on"]

def loadSwitch (file : SettingsFile) (sect key : String) (default : Bool) : Except LoadError Bool := do
  match ← file.get sect key with
  | none => return default
  | some raw => return truthTexts.contains (Text.lower raw)

def loadText (file : SettingsFile) (sect key default : String) : Except LoadError String := do
  match ← file.get sect key with
  | none => return default
  | some raw => return Text.trim raw

def Analysis.load (file : SettingsFile) : Except LoadError Analysis := do
  let maxWorkers ← maxWorkersField.load file
  let maxNestingDepth ← maxNestingDepthField.load file
  let includeStubs ← loadSwitch file "analysis" "include_stubs" Analysis.default.includeStubs
  return ⟨maxWorkers, maxNestingDepth, includeStubs⟩

def Layout.load (file : SettingsFile) : Except LoadError Layout := do
  let prog ← loadText file "layout" "prog" Layout.default.prog
  let rankDir ← loadText file "layout" "rank_dir" Layout.default.rankDir
  let gridScaleX ← gridScaleXField.load file
  let gridScaleY ← gridScaleYField.load file
  if rankDirs.contains (Text.upper rankDir) then return ⟨prog, rankDir, gridScaleX, gridScaleY⟩
  else throw (.issue (.unknownRankDir rankDir))

def Files.load (file : SettingsFile) : Except LoadError Files := do
  let maxFileSizeKb ← maxFileSizeField.load file
  let binaryCheckBytes ← binaryCheckField.load file
  let minifiedLineLength ← minifiedLengthField.load file
  return ⟨maxFileSizeKb, binaryCheckBytes, minifiedLineLength⟩

def Paths.load (file : SettingsFile) : Except LoadError Paths := do
  let ignoreFile ← loadText file "paths" "ignore_file" Paths.default.ignoreFile
  return ⟨ignoreFile⟩

def Config.ofSettingsFile (file : SettingsFile) : Except LoadError Config := do
  let analysis ← Analysis.load file
  let layout ← Layout.load file
  let files ← Files.load file
  let paths ← Paths.load file
  return ⟨".", none, analysis, layout, files, paths⟩

/-! ## Files and environment -/

/-- An error in the text of a settings file, as one of the file at a path. -/
def inFile {α : Type} (path : String) (result : Except IniError α) : Except LoadError α :=
  match result with
  | .ok a => .ok a
  | .error e => .error (.ini path e)

/-- Reads the bytes of a settings file.  If they are no text, this shows only after the lines that
are given out before. -/
def readBytes (path : String) (bytes : List UInt8) : Except LoadError Ini := do
  match Text.readLines bytes with
  | (lines, none) => inFile path (Ini.read lines)
  | (lines, some f) =>
    let _ ← inFile path (Ini.readLines lines)
    throw (.undecodable f)

/-- Reads the settings file at a path.  A directory, or nothing at all, counts as an empty file. -/
def SettingsFile.read (host : Host) (path : String) : Except LoadError SettingsFile := do
  match host.tree.find host.current path with
  | .error f => throw (.path f)
  | .ok (some (_, .file bytes)) => return ⟨path, ← readBytes path bytes⟩
  | .ok _ => return ⟨path, .empty⟩

/-- The settings of the settings file at a path, or the defaults if there is none. -/
def Config.ofFile (host : Host) (path : Option String) : Except LoadError Config := do
  match path with
  | none => Config.ofSettingsFile ⟨"", .empty⟩
  | some p => Config.ofSettingsFile (← SettingsFile.read host (Path.normalize p))

def settingsFileName : String := "callscope.ini"

def workersOverride (host : Host) (analysis : Analysis) : Except LoadError Analysis :=
  match host.setting? "CALLSCOPE_MAX_WORKERS" with
  | none => .ok analysis
  | some raw =>
    match Decimal.readInteger raw with
    | .error _ => .error (.issue (.invalidWorkers raw))
    | .ok n =>
      if n < 1 then .error (.issue (.tooFewWorkers n)) else .ok { analysis with maxWorkers := n }

def progOverride (host : Host) (layout : Layout) : Layout :=
  match host.setting? "CALLSCOPE_LAYOUT_PROG" with
  | none => layout
  | some prog => { layout with prog := prog }

def load (host : Host) : Except LoadError Config := do
  match host.setting? "WORKSPACE_PATH" with
  | none => throw .workspaceUnset
  | some workspace =>
    let path := match host.setting? "CALLSCOPE_CONFIG" with
      | some p => p
      | none => Path.join workspace settingsFileName
    let base ← Config.ofFile host (some path)
    let analysis ← workersOverride host base.analysis
    return {
      workspacePath := Path.normalize workspace
      displayOverride := host.lookupVariable "WORKSPACE_DISPLAY_PATH"
      analysis := analysis
      layout := progOverride host base.layout
      files := base.files
      paths := base.paths }

/-- The loaded settings, or the defaults if a declared error arises. -/
def orDefaults (loaded : Except LoadError Config) : Except LoadError Config :=
  match loaded with
  | .ok c => .ok c
  | .error e => if e.isDeclared then .ok (Config.default ".") else .error e

/-- A host with the settings that have been loaded from it.  Settings are loaded at most once, and an
error is not remembered. -/
structure Session where
  host : Host
  loaded : Option Config

namespace Session

def start (host : Host) : Session := ⟨host, none⟩

/-- The settings of the session, and the session with them. -/
def settings (s : Session) : Except LoadError Config × Session :=
  match s.loaded with
  | some c => (.ok c, s)
  | none =>
    match load s.host with
    | .ok c => (.ok c, { s with loaded := some c })
    | .error e => (.error e, s)

def settingsOrDefaults (s : Session) : Except LoadError Config × Session :=
  let (loaded, s) := s.settings
  (orDefaults loaded, s)

def clear (s : Session) : Session := { s with loaded := none }

end Session

end CallAtlas.Settings
