import CallAtlas.Proofs.Loading

/-!
# Loaded settings and their bounds

Which of the settings that are loaded lie between the bounds of the schema.  A number that is compared
only with the bounds it must not pass is between them unless it is the number that is none, which
compares with nothing; and the number of workers that the environment asks for is compared with its
least value only.  All other settings are always in range.
-/

namespace CallAtlas

namespace Decimal

open Float.Model (UnpackedFloat)

theorem compare_scaled_swap (m n : Nat) (d e : Int) :
    (compare e d).then (compare n m) = ((compare d e).then (compare m n)).swap := by
  rw [Ordering.swap_then, ← Std.OrientedOrd.eq_swap, ← Std.OrientedOrd.eq_swap]

theorem compare_swap (a b : UnpackedFloat) : b.compare a = (a.compare b).map Ordering.swap := by
  cases a with
  | notANumber => cases b <;> rfl
  | infinity s =>
      cases b with
      | infinity t => cases s <;> cases t <;> rfl
      | _ => cases s <;> rfl
  | zero s =>
      cases b with
      | infinity t => cases t <;> rfl
      | finite t => cases t <;> rfl
      | _ => rfl
  | finite s m d _ =>
      cases b with
      | infinity t => cases s <;> cases t <;> rfl
      | finite t n e _ =>
          -- Only numbers of one sign are compared by their size.
          cases s <;> cases t
          · exact congrArg some (congrArg Ordering.swap (compare_scaled_swap ..))
          · rfl
          · rfl
          · exact congrArg some (compare_scaled_swap ..)
      | zero t => cases s <;> rfl
      | notANumber => rfl

theorem compare_isSome (a b : UnpackedFloat) : (a.compare b).isSome = (!a.isNaN && !b.isNaN) := by
  cases a with
  | notANumber => rfl
  | infinity s => cases s <;> cases b <;> rfl
  | zero s =>
      cases b with
      | infinity t => cases t <;> rfl
      | finite t => cases t <;> rfl
      | _ => rfl
  | finite s =>
      cases b with
      | infinity t => cases s <;> cases t <;> rfl
      | finite t => cases s <;> cases t <;> rfl
      | _ => cases s <;> rfl

/-- One number is at most another if both are numbers and the other one is not less. -/
theorem le_iff {x y : Float} : x ≤ y ↔ (x.isNaN = false ∧ y.isNaN = false) ∧ ¬ y < x := by
  have hle : x ≤ y ↔ (x.toModel.unpack.compare y.toModel.unpack).any (·.isLE) = true := by
    show decide _ = true ↔ _
    exact decide_eq_true_iff
  have hlt : y < x ↔ y.toModel.unpack.compare x.toModel.unpack = some .lt := by
    show decide _ = true ↔ _
    rw [decide_eq_true_iff]
    exact beq_iff_eq
  have hnumbers : (x.isNaN = false ∧ y.isNaN = false) ↔
      (x.toModel.unpack.compare y.toModel.unpack).isSome = true := by
    rw [compare_isSome, Bool.and_eq_true, Bool.not_eq_true', Bool.not_eq_true']
    rfl
  rw [hle, hlt, hnumbers, compare_swap x.toModel.unpack y.toModel.unpack]
  cases x.toModel.unpack.compare y.toModel.unpack with
  | none => decide
  | some order => cases order <;> decide

end Decimal

namespace Settings

open Project

def IntegerField.Admits (f : IntegerField) (n : Int) : Prop := f.least ≤ n ∧ n ≤ f.greatest

def NumberField.Admits (f : NumberField) (x : Float) : Prop := f.least ≤ x ∧ x ≤ f.greatest

instance (f : IntegerField) (n : Int) : Decidable (f.Admits n) := inferInstanceAs (Decidable (_ ∧ _))

instance (f : NumberField) (x : Float) : Decidable (f.Admits x) :=
  inferInstanceAs (Decidable (_ ∧ _))

def numberFields : List NumberField := [gridScaleXField, gridScaleYField]

theorem gridScaleX_mem : gridScaleXField ∈ numberFields := List.mem_cons_self

theorem gridScaleY_mem : gridScaleYField ∈ numberFields :=
  List.mem_cons_of_mem _ List.mem_cons_self

structure Analysis.InRange (a : Analysis) : Prop where
  maxWorkers : maxWorkersField.Admits a.maxWorkers
  maxNestingDepth : maxNestingDepthField.Admits a.maxNestingDepth

structure Layout.InRange (l : Layout) : Prop where
  rankDir : Text.upper l.rankDir ∈ rankDirs
  gridScaleX : gridScaleXField.Admits l.gridScaleX
  gridScaleY : gridScaleYField.Admits l.gridScaleY

structure Files.InRange (f : Files) : Prop where
  maxFileSizeKb : maxFileSizeField.Admits f.maxFileSizeKb
  binaryCheckBytes : binaryCheckField.Admits f.binaryCheckBytes
  minifiedLineLength : minifiedLengthField.Admits f.minifiedLineLength

/-- Every setting respects the schema. -/
structure Config.InRange (c : Config) : Prop where
  analysis : c.analysis.InRange
  layout : c.layout.InRange
  files : c.files.InRange

variable {file : SettingsFile}

theorem IntegerField.admits_of_check {f : IntegerField} {n m : Int} (h : f.check n = .ok m) :
    m = n ∧ f.Admits n := by
  rw [check] at h
  split at h
  · cases h
  · split at h
    · cases h
    · exact ⟨(Except.ok.inj h).symm, by omega, by omega⟩

theorem IntegerField.admits_of_load {f : IntegerField} {n : Int} (h : f.load file = .ok n) :
    f.Admits n := by
  obtain ⟨value, -, h⟩ := bind_ok h
  cases value with
  | none =>
      obtain ⟨rfl, hadmits⟩ := admits_of_check h
      exact hadmits
  | some raw =>
      cases hread : Decimal.readInteger raw with
      | error e => simp [hread] at h
      | ok m =>
          simp only [hread] at h
          obtain ⟨rfl, hadmits⟩ := admits_of_check h
          exact hadmits

theorem NumberField.check_ok {f : NumberField} {x y : Float} (h : f.check x = .ok y) :
    y = x ∧ ¬ x < f.least ∧ ¬ f.greatest < x := by
  rw [check] at h
  split at h
  · cases h
  · split at h
    · cases h
    · exact ⟨(Except.ok.inj h).symm, ‹_›, ‹_›⟩

/-- A number that is loaded is neither below nor above its bounds.  It is the default or the number
that the settings file sets. -/
theorem NumberField.load_ok {f : NumberField} {x : Float} (h : f.load file = .ok x) :
    (¬ x < f.least ∧ ¬ f.greatest < x) ∧
      (file.get f.sect f.key = .ok none ∧ x = f.default ∨
        ∃ raw, file.get f.sect f.key = .ok (some raw) ∧ Decimal.readNumber raw = some x) := by
  obtain ⟨value, hvalue, h⟩ := bind_ok h
  cases value with
  | none =>
      obtain ⟨rfl, hbounds⟩ := check_ok h
      exact ⟨hbounds, .inl ⟨hvalue, rfl⟩⟩
  | some raw =>
      cases hread : Decimal.readNumber raw with
      | none => simp [hread] at h
      | some y =>
          simp only [hread] at h
          obtain ⟨rfl, hbounds⟩ := check_ok h
          exact ⟨hbounds, .inr ⟨raw, hvalue, hread⟩⟩

/-- The defaults of the number settings pass their own checks; so their bounds are numbers. -/
theorem admits_default {f : NumberField} (hf : f ∈ numberFields) : f.Admits f.default := by
  revert f
  decide

theorem NumberField.admits_iff_of_load {f : NumberField} (hf : f ∈ numberFields) {x : Float}
    (h : f.load file = .ok x) : f.Admits x ↔ x.isNaN = false := by
  obtain ⟨⟨hbelow, habove⟩, -⟩ := load_ok h
  obtain ⟨hleast, hgreatest⟩ := admits_default hf
  rw [Decimal.le_iff] at hleast hgreatest
  rw [Admits, Decimal.le_iff, Decimal.le_iff]
  constructor
  · rintro ⟨⟨⟨-, hx⟩, -⟩, -⟩
    exact hx
  · intro hx
    exact ⟨⟨⟨hleast.1.1, hx⟩, hbelow⟩, ⟨hx, hgreatest.1.2⟩, habove⟩

theorem NumberField.isNaN_iff_of_load {f : NumberField} (hf : f ∈ numberFields) {x : Float}
    (h : f.load file = .ok x) :
    x.isNaN = false ↔ ∀ raw y, file.get f.sect f.key = .ok (some raw) →
      Decimal.readNumber raw = some y → y.isNaN = false := by
  rcases (load_ok h).2 with ⟨hget, rfl⟩ | ⟨raw, hget, hread⟩
  · refine iff_of_true ?_ fun raw y hraw => ?_
    · have hdefault := (admits_default hf).1
      rw [Decimal.le_iff] at hdefault
      exact hdefault.1.2
    · rw [hget] at hraw
      cases hraw
  · constructor
    · intro hx raw' y hraw' hread'
      rw [hget] at hraw'
      cases hraw'
      rw [hread] at hread'
      cases hread'
      exact hx
    · intro hset
      exact hset raw x hget hread

theorem Analysis.inRange_of_load {a : Analysis} (h : Analysis.load file = .ok a) : a.InRange := by
  obtain ⟨maxWorkers, hworkers, h⟩ := bind_ok h
  obtain ⟨maxNestingDepth, hdepth, h⟩ := bind_ok h
  obtain ⟨includeStubs, -, h⟩ := bind_ok h
  obtain rfl := Except.ok.inj h
  exact ⟨IntegerField.admits_of_load hworkers, IntegerField.admits_of_load hdepth⟩

theorem Files.inRange_of_load {f : Files} (h : Files.load file = .ok f) : f.InRange := by
  obtain ⟨maxFileSizeKb, hsize, h⟩ := bind_ok h
  obtain ⟨binaryCheckBytes, hbytes, h⟩ := bind_ok h
  obtain ⟨minifiedLineLength, hlength, h⟩ := bind_ok h
  obtain rfl := Except.ok.inj h
  exact ⟨IntegerField.admits_of_load hsize, IntegerField.admits_of_load hbytes,
    IntegerField.admits_of_load hlength⟩

theorem Layout.load_ok {l : Layout} (h : Layout.load file = .ok l) :
    Text.upper l.rankDir ∈ rankDirs ∧ gridScaleXField.load file = .ok l.gridScaleX ∧
      gridScaleYField.load file = .ok l.gridScaleY := by
  obtain ⟨prog, -, h⟩ := bind_ok h
  obtain ⟨rankDir, -, h⟩ := bind_ok h
  obtain ⟨gridScaleX, hx, h⟩ := bind_ok h
  obtain ⟨gridScaleY, hy, h⟩ := bind_ok h
  split at h
  · next hdir =>
      obtain rfl := Except.ok.inj h
      exact ⟨List.contains_iff_mem.1 hdir, hx, hy⟩
  · cases h

/-- The layout that a settings file asks for is in range if the scales that it sets are numbers. -/
theorem Layout.inRange_iff_of_load {l : Layout} (h : Layout.load file = .ok l) :
    l.InRange ↔ ∀ f ∈ numberFields, ∀ raw x, file.get f.sect f.key = .ok (some raw) →
      Decimal.readNumber raw = some x → x.isNaN = false := by
  obtain ⟨hdir, hx, hy⟩ := load_ok h
  have hX := (NumberField.admits_iff_of_load gridScaleX_mem hx).trans
    (NumberField.isNaN_iff_of_load gridScaleX_mem hx)
  have hY := (NumberField.admits_iff_of_load gridScaleY_mem hy).trans
    (NumberField.isNaN_iff_of_load gridScaleY_mem hy)
  constructor
  · intro inRange f hf
    rcases List.mem_pair.1 hf with rfl | rfl
    · exact hX.1 inRange.gridScaleX
    · exact hY.1 inRange.gridScaleY
  · intro hset
    exact ⟨hdir, hX.2 (hset _ gridScaleX_mem), hY.2 (hset _ gridScaleY_mem)⟩

theorem Config.ofSettingsFile_ok {c : Config} (h : Config.ofSettingsFile file = .ok c) :
    Analysis.load file = .ok c.analysis ∧ Layout.load file = .ok c.layout ∧
      Files.load file = .ok c.files := by
  obtain ⟨analysis, hanalysis, h⟩ := bind_ok h
  obtain ⟨layout, hlayout, h⟩ := bind_ok h
  obtain ⟨files, hfiles, h⟩ := bind_ok h
  obtain ⟨paths, -, h⟩ := bind_ok h
  obtain rfl := Except.ok.inj h
  exact ⟨hanalysis, hlayout, hfiles⟩

/-! ## Overrides -/

variable {host : Host}

/-- The number of workers is the one of the settings file unless the environment asks for another,
which is at least one. -/
theorem workersOverride_ok {a b : Analysis} (h : workersOverride host a = .ok b) :
    b.maxNestingDepth = a.maxNestingDepth ∧
      (host.setting? "CALLSCOPE_MAX_WORKERS" = none ∧ b.maxWorkers = a.maxWorkers ∨
        ∃ raw, host.setting? "CALLSCOPE_MAX_WORKERS" = some raw ∧
          Decimal.readInteger raw = .ok b.maxWorkers ∧ 1 ≤ b.maxWorkers) := by
  unfold workersOverride at h
  split at h
  · next hsetting =>
      obtain rfl := Except.ok.inj h
      exact ⟨rfl, .inl ⟨hsetting, rfl⟩⟩
  · next raw hsetting =>
      split at h
      · cases h
      · next n hread =>
          split at h
          · cases h
          · next hleast =>
              obtain rfl := Except.ok.inj h
              exact ⟨rfl, .inr ⟨raw, hsetting, hread, Int.not_lt.1 hleast⟩⟩

/-- Loaded settings of the analysis are in range if the environment does not ask for too many
workers. -/
theorem Analysis.inRange_iff_of_override {a b : Analysis} (ha : a.InRange)
    (h : workersOverride host a = .ok b) :
    b.InRange ↔ ∀ raw n, host.setting? "CALLSCOPE_MAX_WORKERS" = some raw →
      Decimal.readInteger raw = .ok n → n ≤ maxWorkersField.greatest := by
  obtain ⟨hdepth, ⟨hsetting, hworkers⟩ | ⟨raw, hsetting, hread, hleast⟩⟩ := workersOverride_ok h
  · refine iff_of_true ⟨hworkers ▸ ha.maxWorkers, hdepth ▸ ha.maxNestingDepth⟩ fun raw n hraw => ?_
    rw [hsetting] at hraw
    cases hraw
  · constructor
    · intro inRange raw' n hraw' hread'
      rw [hsetting] at hraw'
      cases hraw'
      rw [hread] at hread'
      cases hread'
      exact inRange.maxWorkers.2
    · intro hgreatest
      exact ⟨⟨hleast, hgreatest raw _ hsetting hread⟩, hdepth ▸ ha.maxNestingDepth⟩

theorem Analysis.least_le_of_override {a b : Analysis} (ha : a.InRange)
    (h : workersOverride host a = .ok b) :
    maxWorkersField.least ≤ b.maxWorkers ∧ maxNestingDepthField.Admits b.maxNestingDepth := by
  obtain ⟨hdepth, ⟨-, hworkers⟩ | ⟨-, -, -, hleast⟩⟩ := workersOverride_ok h
  · exact ⟨hworkers ▸ ha.maxWorkers.1, hdepth ▸ ha.maxNestingDepth⟩
  · exact ⟨hleast, hdepth ▸ ha.maxNestingDepth⟩

theorem progOverride_eq (host : Host) (l : Layout) :
    ∃ prog, progOverride host l = { l with prog := prog } := by
  unfold progOverride
  split
  · exact ⟨l.prog, rfl⟩
  · exact ⟨_, rfl⟩

theorem Layout.progOverride_inRange (host : Host) {l : Layout} :
    (progOverride host l).InRange ↔ l.InRange := by
  obtain ⟨prog, hprog⟩ := progOverride_eq host l
  rw [hprog]
  exact ⟨fun h => ⟨h.rankDir, h.gridScaleX, h.gridScaleY⟩,
    fun h => ⟨h.rankDir, h.gridScaleX, h.gridScaleY⟩⟩

/-- Loaded settings respect the schema exactly if the environment does not ask for more workers than
the greatest number, and the scales that the settings file sets are numbers.  In any case there is a
worker, the nesting depth, the limits on files and the rank direction respect the schema, and so does
each scale that is a number. -/
theorem load_inRange_iff {c : Config} (h : load host = .ok c) :
    ∃ workspace file, host.setting? "WORKSPACE_PATH" = some workspace ∧
      SettingsFile.read host (settingsPath host workspace) = .ok file ∧
      (c.InRange ↔
        (∀ raw n, host.setting? "CALLSCOPE_MAX_WORKERS" = some raw →
          Decimal.readInteger raw = .ok n → n ≤ maxWorkersField.greatest) ∧
        ∀ f ∈ numberFields, ∀ raw x, file.get f.sect f.key = .ok (some raw) →
          Decimal.readNumber raw = some x → x.isNaN = false) ∧
      (maxWorkersField.least ≤ c.analysis.maxWorkers ∧
        maxNestingDepthField.Admits c.analysis.maxNestingDepth) ∧
      c.files.InRange ∧ Text.upper c.layout.rankDir ∈ rankDirs ∧
      (gridScaleXField.Admits c.layout.gridScaleX ↔ c.layout.gridScaleX.isNaN = false) ∧
      (gridScaleYField.Admits c.layout.gridScaleY ↔ c.layout.gridScaleY.isNaN = false) := by
  obtain ⟨workspace, file, base, analysis, hworkspace, hfile, hbase, hworkers, rfl⟩ := load_ok h
  obtain ⟨hanalysis, hlayout, hfiles⟩ := Config.ofSettingsFile_ok hbase
  have analysisInRange := Analysis.inRange_of_load hanalysis
  have filesInRange := Files.inRange_of_load hfiles
  refine ⟨workspace, file, hworkspace, hfile, ?_,
    Analysis.least_le_of_override analysisInRange hworkers, filesInRange, ?_⟩
  · rw [← Analysis.inRange_iff_of_override analysisInRange hworkers,
      ← Layout.inRange_iff_of_load hlayout, ← Layout.progOverride_inRange host]
    exact ⟨fun inRange => ⟨inRange.analysis, inRange.layout⟩,
      fun ⟨hanalysis, hlayout⟩ => ⟨hanalysis, hlayout, filesInRange⟩⟩
  · obtain ⟨hdir, hx, hy⟩ := Layout.load_ok hlayout
    obtain ⟨prog, hprog⟩ := progOverride_eq host base.layout
    rw [Config.forHost, hprog]
    exact ⟨hdir, NumberField.admits_iff_of_load gridScaleX_mem hx,
      NumberField.admits_iff_of_load gridScaleY_mem hy⟩

def scaledFile (raw : String) : SettingsFile :=
  ⟨"/w/callscope.ini", [], [("layout", [("grid_scale_x", raw)])]⟩

theorem scaledFile_get {raw : String} (hplain : '%' ∉ raw.toList) :
    (scaledFile raw).get gridScaleXField.sect gridScaleXField.key = .ok (some raw) := by
  have hvalue : (scaledFile raw).ini.get "layout" "grid_scale_x" = .ok (some raw) :=
    Ini.get_plain rfl rfl hplain
  simp only [SettingsFile.get, gridScaleXField, hvalue]

theorem ofSettingsFile_scaledFile {raw : String} {x : Float} (hplain : '%' ∉ raw.toList)
    (hread : Decimal.readNumber raw = some x) (hcheck : gridScaleXField.check x = .ok x) :
    Config.ofSettingsFile (scaledFile raw) =
      .ok { Config.default "." with layout := { Layout.default with gridScaleX := x } } := by
  have hx : gridScaleXField.load (scaledFile raw) = .ok x := by
    rw [NumberField.load, scaledFile_get hplain, ok_bind]
    simp only [hread]
    exact hcheck
  have hlayout : Layout.load (scaledFile raw) = .ok { Layout.default with gridScaleX := x } := by
    rw [Layout.load, hx]
    rfl
  rw [Config.ofSettingsFile, hlayout]
  rfl

/-- The greatest number of workers and the greatest scale are in range. -/
theorem load_inRange_iff_greatest :
    ∃ c, load (settingsHost "64" "[layout]\ngrid_scale_x = 100\n") = .ok c ∧ c.InRange := by
  have hfile : SettingsFile.read (settingsHost "64" "[layout]\ngrid_scale_x = 100\n")
      (settingsPath (settingsHost "64" "[layout]\ngrid_scale_x = 100\n") "/w") =
      .ok (scaledFile "100") := rfl
  have hload := load_eq_ok rfl hfile (ofSettingsFile_scaledFile (by decide) rfl rfl) rfl
  refine ⟨_, hload, ?_⟩
  obtain ⟨workspace, file, hworkspace, hfile', hiff, -⟩ := load_inRange_iff hload
  obtain rfl : "/w" = workspace := Option.some.inj hworkspace
  obtain rfl := Except.ok.inj (hfile.symm.trans hfile')
  rw [hiff]
  refine ⟨fun raw n hraw hn => ?_, fun f hf raw x hraw hx => ?_⟩
  · obtain rfl : "64" = raw := Option.some.inj hraw
    obtain rfl : 64 = n := Except.ok.inj hn
    decide
  · rcases List.mem_pair.1 hf with rfl | rfl
    · rw [scaledFile_get (by decide)] at hraw
      cases hraw
      have hnumber : (Decimal.readNumber "100").all (fun x => !x.isNaN) = true := by decide +kernel
      rw [hx, Option.all_some, Bool.not_eq_true'] at hnumber
      exact hnumber
    · cases hraw

/-- More workers than the greatest number are loaded from the environment, and a scale that is no
number from the settings file. -/
theorem load_out_of_range :
    ∃ c, load (settingsHost "65" "[layout]\ngrid_scale_x = nan\n") = .ok c ∧
      ¬ maxWorkersField.Admits c.analysis.maxWorkers ∧
      ¬ gridScaleXField.Admits c.layout.gridScaleX := by
  have hfile : SettingsFile.read (settingsHost "65" "[layout]\ngrid_scale_x = nan\n")
      (settingsPath (settingsHost "65" "[layout]\ngrid_scale_x = nan\n") "/w") =
      .ok (scaledFile "nan") := rfl
  have hload := load_eq_ok rfl hfile (ofSettingsFile_scaledFile (by decide) rfl rfl) rfl
  refine ⟨_, hload, ?_, ?_⟩
  · decide
  · decide

end Settings
end CallAtlas
