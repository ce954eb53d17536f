import CallAtlas.Proofs.SettingsText
import CallAtlas.Service.Application

/-!
# How invalid settings are reported

Settings that cannot be loaded are reported by an error that is declared, and for which the defaults
stand in, unless the settings file cannot be read as sections of options or an option that is looked
up holds a reference that cannot be replaced.  These two faults go through to whoever asked for the
settings.
-/

namespace CallAtlas.Settings

open Project

variable {file : SettingsFile}

/-- A computation takes its settings from options of a file.  It fails if a value is refused or if the
value of one of the options does not expand; when it succeeds all of them have expanded. -/
structure Takes {α : Type} (file : SettingsFile) (options : List (String × String))
    (x : Except LoadError α) : Prop where
  fails : ∀ e, x = .error e → (∃ i, e = .issue i) ∨
    ∃ option ∈ options, ∃ fault, e = .ini file.path fault ∧
      file.ini.get option.1 option.2 = .error fault
  expands : ∀ a, x = .ok a → ∀ option ∈ options, ∃ value, file.ini.get option.1 option.2 = .ok value

namespace Takes

variable {α β : Type} {options rest : List (String × String)}

theorem ok (a : α) : Takes file [] (.ok a : Except LoadError α) where
  fails := by
    intro e h
    cases h
  expands := fun _ _ _ hoption => absurd hoption List.not_mem_nil

theorem refused (i : Issue) : Takes file [] (.error (.issue i) : Except LoadError α) where
  fails := by
    intro e h
    cases h
    exact .inl ⟨i, rfl⟩
  expands := fun _ _ _ hoption => absurd hoption List.not_mem_nil

theorem get (sect key : String) : Takes file [(sect, key)] (file.get sect key) where
  fails := by
    intro e h
    unfold SettingsFile.get at h
    split at h
    · cases h
    · next fault hget =>
        cases h
        exact .inr ⟨_, List.mem_cons_self, fault, rfl, hget⟩
  expands := by
    intro value h option hoption
    obtain rfl := List.mem_singleton.1 hoption
    unfold SettingsFile.get at h
    split at h
    · next value' hget => exact ⟨value', hget⟩
    · cases h

/-- The options of two computations, one after the other, are those of both. -/
theorem bind {x : Except LoadError α} {next : α → Except LoadError β} (hx : Takes file options x)
    (hnext : ∀ a, Takes file rest (next a)) : Takes file (options ++ rest) (x >>= next) where
  fails := by
    intro e h
    rcases bind_error h with h | ⟨a, -, h⟩
    · rcases hx.fails e h with hissue | ⟨option, hoption, hfault⟩
      · exact .inl hissue
      · exact .inr ⟨option, List.mem_append_left _ hoption, hfault⟩
    · rcases (hnext a).fails e h with hissue | ⟨option, hoption, hfault⟩
      · exact .inl hissue
      · exact .inr ⟨option, List.mem_append_right _ hoption, hfault⟩
  expands := by
    intro b h option hoption
    obtain ⟨a, ha, h⟩ := bind_ok h
    rcases List.mem_append.1 hoption with hoption | hoption
    · exact hx.expands a ha option hoption
    · exact (hnext a).expands b h option hoption

end Takes

theorem IntegerField.check_takes (f : IntegerField) (n : Int) : Takes file [] (f.check n) := by
  unfold check
  split
  · exact .refused _
  · split
    · exact .refused _
    · exact .ok n

theorem IntegerField.load_takes (f : IntegerField) : Takes file [(f.sect, f.key)] (f.load file) := by
  apply (Takes.get f.sect f.key).bind
  intro value
  cases value with
  | none => exact f.check_takes _
  | some raw =>
      simp only
      split
      · exact f.check_takes _
      · exact .refused _

theorem NumberField.check_takes (f : NumberField) (x : Float) : Takes file [] (f.check x) := by
  unfold check
  split
  · exact .refused _
  · split
    · exact .refused _
    · exact .ok x

theorem NumberField.load_takes (f : NumberField) : Takes file [(f.sect, f.key)] (f.load file) := by
  apply (Takes.get f.sect f.key).bind
  intro value
  cases value with
  | none => exact f.check_takes _
  | some raw =>
      simp only
      split
      · exact f.check_takes _
      · exact .refused _

theorem loadSwitch_takes (sect key : String) (default : Bool) :
    Takes file [(sect, key)] (loadSwitch file sect key default) := by
  apply (Takes.get sect key).bind
  intro value
  cases value with
  | none => exact .ok _
  | some raw => exact .ok _

theorem loadText_takes (sect key default : String) :
    Takes file [(sect, key)] (loadText file sect key default) := by
  apply (Takes.get sect key).bind
  intro value
  cases value with
  | none => exact .ok _
  | some raw => exact .ok _

def analysisOptions : List (String × String) :=
  [("analysis", "max_workers"), ("analysis", "max_nesting_depth"), ("analysis", "include_stubs")]

def layoutOptions : List (String × String) :=
  [("layout", "prog"), ("layout", "rank_dir"), ("layout", "grid_scale_x"),
    ("layout", "grid_scale_y")]

def filesOptions : List (String × String) :=
  [("files", "max_file_size_kb"), ("files", "binary_check_bytes"),
    ("files", "minified_line_length")]

def pathsOptions : List (String × String) := [("paths", "ignore_file")]

/-- The options that settings are taken from. -/
def schemaOptions : List (String × String) :=
  analysisOptions ++ (layoutOptions ++ (filesOptions ++ pathsOptions))

theorem Analysis.load_takes : Takes file analysisOptions (Analysis.load file) := by
  apply maxWorkersField.load_takes.bind
  intro maxWorkers
  apply maxNestingDepthField.load_takes.bind
  intro maxNestingDepth
  apply (loadSwitch_takes _ _ _).bind
  intro includeStubs
  exact .ok _

theorem Layout.load_takes : Takes file layoutOptions (Layout.load file) := by
  apply (loadText_takes _ _ _).bind
  intro prog
  apply (loadText_takes _ _ _).bind
  intro rankDir
  apply gridScaleXField.load_takes.bind
  intro gridScaleX
  apply gridScaleYField.load_takes.bind
  intro gridScaleY
  split
  · exact .ok _
  · exact .refused _

theorem Files.load_takes : Takes file filesOptions (Files.load file) := by
  apply maxFileSizeField.load_takes.bind
  intro maxFileSizeKb
  apply binaryCheckField.load_takes.bind
  intro binaryCheckBytes
  apply minifiedLengthField.load_takes.bind
  intro minifiedLineLength
  exact .ok _

theorem Paths.load_takes : Takes file pathsOptions (Paths.load file) := by
  apply (loadText_takes _ _ _).bind
  intro ignoreFile
  exact .ok _

theorem Config.ofSettingsFile_takes : Takes file schemaOptions (Config.ofSettingsFile file) := by
  apply Analysis.load_takes.bind
  intro analysis
  apply Layout.load_takes.bind
  intro layout
  apply Files.load_takes.bind
  intro files
  apply Paths.load_takes.bind
  intro paths
  exact .ok _

/-! ## The settings file -/

variable {host : Host} {path : String} {bytes : List UInt8} {fault : IniError}

/-- Bytes cannot be read as sections of options. -/
inductive IllFormed (bytes : List UInt8) (fault : IniError) : Prop where
  /-- They are a text that is at fault. -/
  | text {text : List Char} (decodes : Text.Utf8.strict bytes = .ok text)
      (faulty : Ini.read (Text.fileLines (Text.unifyLineEnds text)) = .error fault)
  /-- They are no text, but some portions at their beginning do not show this, and a line that is
  complete there is at fault. -/
  | lines {f : Text.Utf8.Fault} (n : Nat) (undecodable : Text.Utf8.strict bytes = .error f)
      (begins : Text.Utf8.BeginsText (bytes.take (n * Text.portionSize)))
      (faulty : Ini.readLines (Text.completeLines (bytes.take (n * Text.portionSize))) =
        .error fault)

theorem inFile_error {α : Type} {result : Except IniError α} {e : LoadError}
    (h : inFile path result = .error e) : ∃ fault, result = .error fault ∧ e = .ini path fault := by
  cases result with
  | ok a => cases h
  | error fault =>
      cases h
      exact ⟨fault, rfl, rfl⟩

theorem inFile_ok {α : Type} {result : Except IniError α} {a : α} (h : inFile path result = .ok a) :
    result = .ok a := by
  cases result with
  | ok a' =>
      cases h
      rfl
  | error fault => cases h

theorem readLines_of_prefix {lines more : List (List Char)} (h : lines <+: more)
    (hfault : Ini.readLines lines = .error fault) : Ini.readLines more = .error fault := by
  obtain ⟨rest, rfl⟩ := h
  unfold Ini.readLines at hfault ⊢
  rw [List.foldlM_append, hfault]
  rfl

theorem illFormed_iff_of_strict {text : List Char} (h : Text.Utf8.strict bytes = .ok text) :
    IllFormed bytes fault ↔
      Ini.read (Text.fileLines (Text.unifyLineEnds text)) = .error fault := by
  constructor
  · rintro (⟨decodes, faulty⟩ | ⟨n, undecodable, -⟩)
    · obtain rfl := Except.ok.inj (h.symm.trans decodes)
      exact faulty
    · cases h.symm.trans undecodable
  · exact .text h

/-- Bytes that are no text are ill-formed if one of the lines is at fault that are read before this
shows. -/
theorem illFormed_iff_of_readLines {lines : List (List Char)} {f : Text.Utf8.Fault}
    (h : Text.readLines bytes = (lines, some f)) :
    IllFormed bytes fault ↔ Ini.readLines lines = .error fault := by
  cases hstrict : Text.Utf8.strict bytes with
  | ok text =>
      rw [Text.readLines_of_strict hstrict] at h
      cases h
  | error e =>
      obtain ⟨n, f', hlines, begins, hmost⟩ := Text.readLines_of_error hstrict
      obtain ⟨rfl, -⟩ := Prod.mk.inj (h.symm.trans hlines)
      constructor
      · rintro (⟨decodes, -⟩ | ⟨m, -, hm, faulty⟩)
        · cases hstrict.symm.trans decodes
        · obtain ⟨rest, hrest⟩ := hmost m hm
          rw [← hrest]
          exact readLines_of_prefix (Text.completeLines_prefix ..) faulty
      · exact .lines n hstrict begins

theorem readBytes_error {e : LoadError} (h : readBytes path bytes = .error e) :
    (∃ f, e = .undecodable f) ∨ ∃ fault, e = .ini path fault ∧ IllFormed bytes fault := by
  unfold readBytes at h
  split at h
  · rename_i lines hlines
    obtain ⟨text, hstrict, rfl⟩ := Text.strict_of_readLines hlines
    obtain ⟨fault, hfault, rfl⟩ := inFile_error h
    exact .inr ⟨fault, rfl, (illFormed_iff_of_strict hstrict).2 hfault⟩
  · rename_i lines f hlines
    rcases bind_error h with h | ⟨-, -, h⟩
    · obtain ⟨fault, hfault, rfl⟩ := inFile_error h
      exact .inr ⟨fault, rfl, (illFormed_iff_of_readLines hlines).2 hfault⟩
    · cases h
      exact .inl ⟨f, rfl⟩

theorem readBytes_of_illFormed (h : IllFormed bytes fault) :
    readBytes path bytes = .error (.ini path fault) := by
  unfold readBytes
  split
  · rename_i lines hlines
    obtain ⟨text, hstrict, rfl⟩ := Text.strict_of_readLines hlines
    rw [(illFormed_iff_of_strict hstrict).1 h, inFile]
  · rename_i lines f hlines
    rw [(illFormed_iff_of_readLines hlines).1 h]
    rfl

theorem readBytes_eq_ok_iff {ini : Ini} : readBytes path bytes = .ok ini ↔
    ∃ text, Text.Utf8.strict bytes = .ok text ∧
      Ini.read (Text.fileLines (Text.unifyLineEnds text)) = .ok ini := by
  constructor
  · intro h
    unfold readBytes at h
    split at h
    · rename_i lines hlines
      obtain ⟨text, hstrict, rfl⟩ := Text.strict_of_readLines hlines
      exact ⟨text, hstrict, inFile_ok h⟩
    · obtain ⟨-, -, h⟩ := bind_ok h
      cases h
  · rintro ⟨text, hstrict, hread⟩
    unfold readBytes
    rw [Text.readLines_of_strict hstrict]
    dsimp only
    rw [hread, inFile]

/-- The settings file at a path cannot be read as sections of options. -/
def Unreadable (host : Host) (path : String) (fault : IniError) : Prop :=
  ∃ location bytes, host.tree.find host.current path = .ok (some (location, .file bytes)) ∧
    IllFormed bytes fault

/-- The settings file at a path has a text that can be read, but the value of an option that settings
are taken from does not expand. -/
def Unexpandable (host : Host) (path : String) (text : List Char) (fault : IniError) : Prop :=
  ∃ location bytes ini, host.tree.find host.current path = .ok (some (location, .file bytes)) ∧
    Text.Utf8.strict bytes = .ok text ∧
    Ini.read (Text.fileLines (Text.unifyLineEnds text)) = .ok ini ∧
    ∃ option ∈ schemaOptions, ini.get option.1 option.2 = .error fault

theorem Unexpandable.percent {text : List Char} (h : Unexpandable host path text fault) :
    '%' ∈ text := by
  obtain ⟨-, -, ini, -, -, hread, option, -, hget⟩ := h
  obtain ⟨options, raw, hscope, hlookup, hpercent⟩ := Ini.percent_of_get_error hget
  have hmem := Ini.mem_text_of_mem_value hread hscope hlookup hpercent (by decide)
  exact Text.mem_of_mem_unifyLineEnds hmem (by decide)

theorem SettingsFile.read_error {e : LoadError} (h : SettingsFile.read host path = .error e) :
    e.isDeclared = true ∨ ∃ fault, e = .ini path fault ∧ Unreadable host path fault := by
  unfold SettingsFile.read at h
  split at h
  · cases h
    exact .inl rfl
  · next location bytes hfind =>
      rcases bind_error h with h | ⟨ini, -, h⟩
      · rcases readBytes_error h with ⟨f, rfl⟩ | ⟨fault, rfl, hfault⟩
        · exact .inl rfl
        · exact .inr ⟨fault, rfl, location, bytes, hfind, hfault⟩
      · cases h
  · cases h

theorem SettingsFile.read_ok (h : SettingsFile.read host path = .ok file) :
    file.path = path ∧ (file.ini = .empty ∨ ∃ location bytes text,
      host.tree.find host.current path = .ok (some (location, .file bytes)) ∧
      Text.Utf8.strict bytes = .ok text ∧
      Ini.read (Text.fileLines (Text.unifyLineEnds text)) = .ok file.ini) := by
  unfold SettingsFile.read at h
  split at h
  · cases h
  · next location bytes hfind =>
      obtain ⟨ini, hini, h⟩ := bind_ok h
      obtain rfl := Except.ok.inj h
      obtain ⟨text, hstrict, hread⟩ := readBytes_eq_ok_iff.1 hini
      exact ⟨rfl, .inr ⟨location, bytes, text, hfind, hstrict, hread⟩⟩
  · obtain rfl := Except.ok.inj h
    exact ⟨rfl, .inl rfl⟩

theorem SettingsFile.read_of_unreadable (h : Unreadable host path fault) :
    SettingsFile.read host path = .error (.ini path fault) := by
  obtain ⟨location, bytes, hfind, hfault⟩ := h
  simp only [SettingsFile.read, hfind, readBytes_of_illFormed hfault]
  rfl

theorem SettingsFile.read_of_unexpandable {text : List Char}
    (h : Unexpandable host path text fault) :
    ∃ file option, SettingsFile.read host path = .ok file ∧ option ∈ schemaOptions ∧
      file.ini.get option.1 option.2 = .error fault := by
  obtain ⟨location, bytes, ini, hfind, hstrict, hread, option, hoption, hget⟩ := h
  refine ⟨⟨path, ini⟩, option, ?_, hoption, hget⟩
  simp only [SettingsFile.read, hfind, readBytes_eq_ok_iff.2 ⟨text, hstrict, hread⟩]
  rfl

/-- If settings cannot be taken out of a settings file that could be read, a value is refused or does
not expand. -/
theorem Config.ofSettingsFile_error {e : LoadError} (hfile : SettingsFile.read host path = .ok file)
    (h : Config.ofSettingsFile file = .error e) :
    e.isDeclared = true ∨ ∃ text fault, e = .ini path fault ∧ Unexpandable host path text fault := by
  rcases Config.ofSettingsFile_takes.fails e h with ⟨i, rfl⟩ | ⟨option, hoption, fault, rfl, hget⟩
  · exact .inl rfl
  · obtain ⟨rfl, hempty | ⟨location, bytes, text, hfind, hstrict, hread⟩⟩ :=
      SettingsFile.read_ok hfile
    · rw [hempty] at hget
      cases hget
    · exact .inr ⟨text, fault, rfl, location, bytes, file.ini, hfind, hstrict, hread, option,
        hoption, hget⟩

/-! ## Loading -/

theorem workersOverride_error {a : Analysis} {e : LoadError} (h : workersOverride host a = .error e) :
    e.isDeclared = true := by
  unfold workersOverride at h
  split at h
  · cases h
  · split at h
    · cases h
      rfl
    · split at h
      · cases h
        rfl
      · cases h

/-- An error is declared unless the settings file cannot be read or an option does not expand. -/
theorem load_error {e : LoadError} (h : load host = .error e) :
    e.isDeclared = true ∨
      ∃ workspace fault, host.setting? "WORKSPACE_PATH" = some workspace ∧
        e = .ini (settingsPath host workspace) fault ∧
        (Unreadable host (settingsPath host workspace) fault ∨
          ∃ text, Unexpandable host (settingsPath host workspace) text fault) := by
  cases hworkspace : host.setting? "WORKSPACE_PATH" with
  | none =>
      rw [load_of_no_workspace hworkspace] at h
      cases h
      exact .inl rfl
  | some workspace =>
      rw [load_of_workspace hworkspace] at h
      rcases bind_error h with h | ⟨file, hfile, h⟩
      · rcases SettingsFile.read_error h with hdeclared | ⟨fault, rfl, hfault⟩
        · exact .inl hdeclared
        · exact .inr ⟨workspace, fault, rfl, rfl, .inl hfault⟩
      · rcases bind_error h with h | ⟨base, -, h⟩
        · rcases Config.ofSettingsFile_error hfile h with hdeclared | ⟨text, fault, rfl, hfault⟩
          · exact .inl hdeclared
          · exact .inr ⟨workspace, fault, rfl, rfl, .inr ⟨text, hfault⟩⟩
        · rcases bind_error h with h | ⟨analysis, -, h⟩
          · exact .inl (workersOverride_error h)
          · cases h

theorem load_of_unreadable {workspace : String}
    (hworkspace : host.setting? "WORKSPACE_PATH" = some workspace)
    (h : Unreadable host (settingsPath host workspace) fault) :
    load host = .error (.ini (settingsPath host workspace) fault) := by
  rw [load_of_workspace hworkspace, SettingsFile.read_of_unreadable h]
  rfl

theorem load_of_unexpandable {workspace : String} {text : List Char}
    (hworkspace : host.setting? "WORKSPACE_PATH" = some workspace)
    (h : Unexpandable host (settingsPath host workspace) text fault) : ∃ e, load host = .error e := by
  cases hload : load host with
  | error e => exact ⟨e, rfl⟩
  | ok c =>
      obtain ⟨workspace', file, base, -, hworkspace', hfile, hbase, -, -⟩ := load_ok hload
      rw [hworkspace] at hworkspace'
      cases hworkspace'
      obtain ⟨file', option, hfile', hoption, hget⟩ := SettingsFile.read_of_unexpandable h
      rw [hfile] at hfile'
      cases hfile'
      obtain ⟨value, hvalue⟩ := Config.ofSettingsFile_takes.expands base hbase option hoption
      rw [hget] at hvalue
      cases hvalue

theorem settingsOrDefaults_start (host : Host) :
    (Session.start host).settingsOrDefaults.1 = orDefaults (load host) := by
  simp only [Session.settingsOrDefaults, Session.settings, Session.start]
  cases load host <;> rfl

open Service (Application Response explains)

theorem explains_of_isDeclared {e : LoadError} (h : e.isDeclared = true) (hpath : ∀ f, e ≠ .path f) :
    explains e = true := by
  cases e with
  | ini => cases h
  | path f => exact absurd rfl (hpath f)
  | _ => rfl

/-- A service that has kept no settings explains why they cannot be loaded, or fails. -/
theorem getRunner_of_load_error {a : Application} {e : LoadError}
    (h : load a.session.host = .error e) :
    a.reset.getRunner =
      (.error (if explains e then .unavailable e.message else .internalError), a.reset) := by
  have hsettings : a.reset.session.settings = (.error e, a.reset.session) := by
    simp only [Session.settings, Application.reset, Session.clear, h]
  have hload : a.reset.loadSettings = (.error e, a.reset) := by
    have hnone : a.reset.settings = none := rfl
    simp only [Application.loadSettings, hnone, hsettings]
    rfl
  have hnone : a.reset.runner = none := rfl
  simp only [Application.getRunner, hnone, hload]

/-- Every failure to load settings is declared, so that the defaults stand in and the service explains
it, unless the settings file cannot be read or the value of an option does not expand, which takes a
percent sign in its text.  Then not even the defaults are given, and the service fails.  A settings
file that cannot be read always leads to this, and one with an option that does not expand never
leads to settings. -/
theorem load_outcome (host : Host) :
    ((∃ c, load host = .ok c ∧ (Session.start host).settingsOrDefaults.1 = .ok c) ∨
      (∃ e, load host = .error e ∧ e.isDeclared = true ∧
        (Session.start host).settingsOrDefaults.1 = .ok (.default ".") ∧
        ∀ a : Application, a.session.host = host → (∀ f, e ≠ .path f) →
          a.reset.getRunner = (.error (.unavailable e.message), a.reset)) ∨
      ∃ workspace fault, host.setting? "WORKSPACE_PATH" = some workspace ∧
        (Unreadable host (settingsPath host workspace) fault ∨
          ∃ text, Unexpandable host (settingsPath host workspace) text fault ∧ '%' ∈ text) ∧
        load host = .error (.ini (settingsPath host workspace) fault) ∧
        (Session.start host).settingsOrDefaults.1 =
          .error (.ini (settingsPath host workspace) fault) ∧
        ∀ a : Application, a.session.host = host →
          a.reset.getRunner = (.error .internalError, a.reset)) ∧
    ∀ workspace fault, host.setting? "WORKSPACE_PATH" = some workspace →
      (Unreadable host (settingsPath host workspace) fault →
        load host = .error (.ini (settingsPath host workspace) fault)) ∧
      ∀ text, Unexpandable host (settingsPath host workspace) text fault →
        ∃ e, load host = .error e := by
  refine ⟨?_, fun workspace fault hworkspace => ⟨load_of_unreadable hworkspace,
    fun text => load_of_unexpandable hworkspace⟩⟩
  rw [settingsOrDefaults_start]
  cases hload : load host with
  | ok c => exact .inl ⟨c, rfl, rfl⟩
  | error e =>
      right
      rcases load_error hload with hdeclared | ⟨workspace, fault, hworkspace, rfl, hfault⟩
      · refine .inl ⟨e, rfl, hdeclared, by rw [orDefaults, if_pos hdeclared], ?_⟩
        rintro a rfl hpath
        rw [getRunner_of_load_error hload, if_pos (explains_of_isDeclared hdeclared hpath)]
      · refine .inr ⟨workspace, fault, hworkspace, ?_, rfl, rfl, ?_⟩
        · rcases hfault with hfault | ⟨text, hfault⟩
          · exact .inl hfault
          · exact .inr ⟨text, hfault, hfault.percent⟩
        · rintro a rfl
          exact getRunner_of_load_error hload

/-- The settings of a host fail with an error that is not declared; the defaults do not stand in for
them, and the service fails when it starts with no settings kept. -/
def Escapes (host : Host) : Prop :=
  ∃ e, load host = .error e ∧ e.isDeclared = false ∧
    (Session.start host).settingsOrDefaults.1 = .error e ∧
    (Application.getRunner ⟨.start host, none, none, none⟩).1 = .error .internalError

theorem escapes_of_load (h : load host = .error (.ini path fault)) : Escapes host := by
  refine ⟨_, h, rfl, ?_, ?_⟩
  · rw [settingsOrDefaults_start, h]
    rfl
  · exact congrArg Prod.fst (getRunner_of_load_error (a := ⟨.start host, none, none, none⟩) h)

/-- A settings file whose only value holds a percent sign that starts no reference. -/
def percentFile : SettingsFile := ⟨"/w/callscope.ini", [], [("layout", [("prog", "50%")])]⟩

theorem ofSettingsFile_percentFile :
    Config.ofSettingsFile percentFile = .error (.ini "/w/callscope.ini" (.strayPercent "%")) := by
  have hexpand : Ini.expand ⟨"layout", "prog", "50%", [("prog", "50%")]⟩ 10 4 "50%".toList =
      .error (.strayPercent "%") := by
    rw [Ini.expand]
    rfl
  have hget : percentFile.ini.get "layout" "prog" = .error (.strayPercent "%") := by
    show (do
      let value ← Ini.expand ⟨"layout", "prog", "50%", [("prog", "50%")]⟩ 10 4 "50%".toList
      return some (String.ofList value)) = _
    rw [hexpand]
    rfl
  have hlayout : Layout.load percentFile = .error (.ini "/w/callscope.ini" (.strayPercent "%")) := by
    simp only [Layout.load, loadText, SettingsFile.get, hget]
    rfl
  rw [Config.ofSettingsFile, hlayout]
  rfl

/-- A line outside all sections, and a percent sign that starts no reference, are reported by errors
that are not declared. -/
theorem load_escapes :
    Escapes (settingsHost "" "x\n") ∧ Escapes (settingsHost "" "[layout]\nprog = 50%\n") := by
  constructor
  · have hload : load (settingsHost "" "x\n") =
        .error (.ini "/w/callscope.ini" (.missingSectionHeader 1 "x\n")) := rfl
    exact escapes_of_load hload
  · have hfile : SettingsFile.read (settingsHost "" "[layout]\nprog = 50%\n")
        (settingsPath (settingsHost "" "[layout]\nprog = 50%\n") "/w") = .ok percentFile := rfl
    apply escapes_of_load
    rw [load_of_workspace rfl, hfile, ok_bind, ofSettingsFile_percentFile]
    rfl

end CallAtlas.Settings
