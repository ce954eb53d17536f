import CallAtlas.Proofs.Computation
import CallAtlas.Settings.Load
import Mathlib.Data.List.TakeWhile

/-!
# What loading settings goes through

A host that names a workspace names one settings file.  Its settings are loaded by reading this file,
taking the settings out of it and letting the environment override some of them; each of these steps
may fail.  A value without a percent sign always expands.
-/

namespace CallAtlas.Settings

open Project

namespace Ini

/-- A text without a percent sign holds no references, so that it is its own value. -/
theorem expand_plain (subject : Subject) {text : List Char} (h : '%' ∉ text) (levels fuel : Nat) :
    expand subject (levels + 1) (fuel + 1) text = .ok text := by
  have hnone : text.dropWhile (· != '%') = [] := by
    rw [List.dropWhile_eq_nil_iff]
    intro c hc
    exact bne_iff_ne.2 fun heq => h (heq ▸ hc)
  rw [expand, hnone]

variable {ini : Ini} {sect name : String} {options : Options} {raw : String}

theorem get_plain (hscope : ini.scope? sect = some options)
    (hlookup : options.lookup name = some raw) (hplain : '%' ∉ raw.toList) :
    ini.get sect name = .ok (some raw) := by
  have hvalue := expand_plain ⟨sect, name, raw, options⟩ hplain 9 raw.length
  simp only [get, hscope, hlookup, referenceDepthLimit, hvalue]
  show Except.ok (some (String.ofList raw.toList)) = _
  rw [String.ofList_toList]

/-- An option whose value does not expand is set to a text with a percent sign. -/
theorem percent_of_get_error {fault : IniError} (h : ini.get sect name = .error fault) :
    ∃ options raw, ini.scope? sect = some options ∧ options.lookup name = some raw ∧
      '%' ∈ raw.toList := by
  cases hscope : ini.scope? sect with
  | none => simp [get, hscope] at h
  | some options =>
      cases hlookup : options.lookup name with
      | none => simp [get, hscope, hlookup] at h
      | some raw =>
          refine ⟨options, raw, rfl, hlookup, ?_⟩
          by_contra hplain
          rw [get_plain hscope hlookup hplain] at h
          cases h

end Ini

variable {host : Host} {workspace : String}

def settingsPath (host : Host) (workspace : String) : String :=
  Path.normalize ((host.setting? "CALLSCOPE_CONFIG").getD (Path.join workspace settingsFileName))

/-- The settings of a settings file as they hold for a host, with the analysis it asks for. -/
def Config.forHost (host : Host) (workspace : String) (base : Config) (analysis : Analysis) :
    Config where
  workspacePath := Path.normalize workspace
  displayOverride := host.lookupVariable "WORKSPACE_DISPLAY_PATH"
  analysis := analysis
  layout := progOverride host base.layout
  files := base.files
  paths := base.paths

theorem load_of_no_workspace (h : host.setting? "WORKSPACE_PATH" = none) :
    load host = .error .workspaceUnset := by
  simp only [load, h]
  rfl

theorem load_of_workspace (h : host.setting? "WORKSPACE_PATH" = some workspace) :
    load host = do
      let file ← SettingsFile.read host (settingsPath host workspace)
      let base ← Config.ofSettingsFile file
      let analysis ← workersOverride host base.analysis
      return base.forHost host workspace analysis := by
  simp only [load, h, Config.ofFile, settingsPath, bind_assoc]
  cases host.setting? "CALLSCOPE_CONFIG" with
  | none => rfl
  | some path => rfl

theorem load_eq_ok {file : SettingsFile} {base : Config} {analysis : Analysis}
    (hworkspace : host.setting? "WORKSPACE_PATH" = some workspace)
    (hfile : SettingsFile.read host (settingsPath host workspace) = .ok file)
    (hbase : Config.ofSettingsFile file = .ok base)
    (hanalysis : workersOverride host base.analysis = .ok analysis) :
    load host = .ok (base.forHost host workspace analysis) := by
  rw [load_of_workspace hworkspace, hfile, ok_bind, hbase, ok_bind, hanalysis, ok_bind]
  rfl

theorem load_ok {c : Config} (h : load host = .ok c) :
    ∃ workspace file base analysis, host.setting? "WORKSPACE_PATH" = some workspace ∧
      SettingsFile.read host (settingsPath host workspace) = .ok file ∧
      Config.ofSettingsFile file = .ok base ∧ workersOverride host base.analysis = .ok analysis ∧
      c = base.forHost host workspace analysis := by
  cases hworkspace : host.setting? "WORKSPACE_PATH" with
  | none =>
      rw [load_of_no_workspace hworkspace] at h
      cases h
  | some workspace =>
      rw [load_of_workspace hworkspace] at h
      obtain ⟨file, hfile, h⟩ := bind_ok h
      obtain ⟨base, hbase, h⟩ := bind_ok h
      obtain ⟨analysis, hanalysis, h⟩ := bind_ok h
      exact ⟨workspace, file, base, analysis, rfl, hfile, hbase, hanalysis, (Except.ok.inj h).symm⟩

/-- A host that asks for a number of workers, and whose workspace has a settings file. -/
def settingsHost (workers settings : String) : Host where
  tree := ⟨[(["w"], .directory), (["w", "callscope.ini"], .file settings.toUTF8.data.toList)]⟩
  current := []
  environment := [("WORKSPACE_PATH", "/w"), ("CALLSCOPE_MAX_WORKERS", workers)]
  ownHome := "/"
  homes := []

end CallAtlas.Settings
