import CallAtlas.Proofs.Enumeration

/-!
# Files and their modules

The modules of a project are the top directories of its files.  The scope of a module is its
directory, and whether a file lies in it is told by the texts of paths; still every file in a
directory lies in the scope of exactly one module, the one named like its top directory, and no file
at the top lies in any.
-/

namespace CallAtlas

theorem Text.sortedTexts_of_increasing {texts : List String} (h : texts.Pairwise (· < ·)) :
    Text.sortedTexts texts = texts :=
  (Text.sortedTexts_pairwise texts).eq_of_mem_iff h fun _ => Text.mem_sortedTexts

namespace Project

/-- A path has a top directory unless it is a name. -/
theorem topDirectory?_eq_none_iff {path : String} :
    topDirectory? path = none ↔ '/' ∉ path.toList := by
  unfold topDirectory? Text.split
  constructor
  · intro hnone hslash
    obtain ⟨start, rest, hpath⟩ := List.append_of_mem hslash
    rw [hpath, Text.splitChars_append, List.map_append] at hnone
    obtain ⟨first, pieces, hfirst⟩ := List.exists_cons_of_ne_nil (Text.splitChars_ne_nil '/' start)
    obtain ⟨next, more, hnext⟩ := List.exists_cons_of_ne_nil (Text.splitChars_ne_nil '/' rest)
    rw [hfirst, hnext] at hnone
    cases pieces <;> cases hnone
  · intro hslash
    rw [Text.splitChars_of_notMem hslash]
    rfl

theorem topDirectory?_joinParts {names : List String} (h : ∀ part ∈ names, IsPart part)
    {name : String} :
    topDirectory? (Path.joinParts names) = some name ↔
      ∃ second rest, names = name :: second :: rest := by
  by_cases hnil : names = []
  · rw [hnil, show topDirectory? (Path.joinParts []) = none by decide]
    simp
  · rw [topDirectory?, Path.split_joinParts hnil h]
    cases names with
    | nil => exact absurd rfl hnil
    | cons first rest =>
        cases rest with
        | nil => simp
        | cons second rest => simp

theorem modulesOf_names (project : String) (files : List String) :
    (modulesOf project files).map (·.name) = Text.sortedTexts (files.filterMap topDirectory?) := by
  simp [modulesOf, Function.comp_def]

theorem mem_modulesOf_names {project : String} {files : List String} {name : String} :
    name ∈ (modulesOf project files).map (·.name) ↔
      ∃ path ∈ files, topDirectory? path = some name := by
  rw [modulesOf_names, Text.mem_sortedTexts, List.mem_filterMap]

theorem relativePath_child (base : Location) (name : String) :
    relativePath base (base ++ [name]) = name := by
  rw [relativePath, Location.below?_eq_some_iff.2 rfl, Option.getD_some, Path.joinParts,
    String.intercalate_singleton]

/-- The modules of the project at a location. -/
def modulesAt (host : Host) (f : FileFilter) (base : Location) : List SourceModule :=
  modulesOf f.project (f.filesBelow host.tree base [base])

section

variable {host : Host} {f : FileFilter} {base : Location}

theorem mem_modulesAt_names {name : String} :
    name ∈ (modulesAt host f base).map (·.name) ↔
      ∃ path ∈ f.filesBelow host.tree base [base], topDirectory? path = some name :=
  mem_modulesOf_names

/-- The directory of a module is the one named like it in the project. -/
theorem locate_module (wellFormed : host.WellFormed) (located : host.locate f.project = .ok base)
    {m : SourceModule} (hm : m ∈ modulesAt host f base) :
    ofPathFault (host.locate m.root) = .ok (base ++ [m.name]) := by
  obtain ⟨path, hpath, htop⟩ := mem_modulesAt_names.1 (List.mem_map_of_mem hm)
  have hroot : host.locate (Path.join f.project m.name) = .ok (base ++ [m.name]) :=
    Location.resolve_join located (isName_of_topDirectory? wellFormed.tree hpath htop)
  obtain ⟨name, -, rfl⟩ := List.mem_map.1 hm
  rw [hroot]
  rfl

/-- The scope of a selected module has the module's name as its root. -/
theorem searchScope_of_oneModule (wellFormed : host.WellFormed)
    (located : host.locate f.project = .ok base) {selection : Selection}
    (hkind : selection.kind = .oneModule) :
    searchScope host f.project (.ok f) selection =
      .ok ⟨(selectedModules (modulesAt host f base) selection.moduleName).map (·.name), false⟩ := by
  have hlocated : (selectedModules (modulesAt host f base) selection.moduleName).mapM
      (fun m => ofPathFault (host.locate m.root)) =
        .ok ((selectedModules (modulesAt host f base) selection.moduleName).map
          fun m => base ++ [m.name]) :=
    mapM_eq_ok_map fun m hm => locate_module wellFormed located (List.mem_filter.1 hm).1
  have hroots : sourceRoots host f.project (.ok f) selection =
      .ok ((selectedModules (modulesAt host f base) selection.moduleName).map
        fun m => base ++ [m.name]) := by
    rw [← hlocated, sourceRoots, hkind]
    dsimp only [bind, Except.bind]
    rw [discoverModules_eq located]
    rfl
  rw [searchScope_of_ok located hroots, scopeOf, List.map_map, hkind]
  simp only [Function.comp_def, relativePath_child]
  rfl

theorem selectedModules_eq_nil {modules : List SourceModule} {name : Option String}
    (h : ∀ m ∈ modules, name ≠ some m.name) : selectedModules modules name = [] := by
  refine List.filter_eq_nil_iff.2 fun m hm => ?_
  rw [decide_eq_true_iff]
  exact fun heq => h m hm heq.symm

def Selection.ofModule (name : String) : Selection := ⟨.oneModule, some name, none⟩

/-- A path lies in the scope of the module with a name. -/
def InModule (host : Host) (f : FileFilter) (name path : String) : Prop :=
  ∃ scope, searchScope host f.project (.ok f) (.ofModule name) = .ok scope ∧
    scope.contains path = true

theorem inModule_iff_covers (wellFormed : host.WellFormed)
    (located : host.locate f.project = .ok base) {name path : String} :
    InModule host f name path ↔ name ∈ (modulesAt host f base).map (·.name) ∧
      SearchScope.covers name path = true := by
  have hscope : searchScope host f.project (.ok f) (.ofModule name) =
      .ok ⟨(selectedModules (modulesAt host f base) (some name)).map (·.name), false⟩ :=
    searchScope_of_oneModule wellFormed located rfl
  have hcontains : SearchScope.contains
      ⟨(selectedModules (modulesAt host f base) (some name)).map (·.name), false⟩ path = true ↔
        ∃ m ∈ modulesAt host f base, m.name = name ∧ SearchScope.covers m.name path = true := by
    simp [SearchScope.contains, selectedModules]
  constructor
  · rintro ⟨scope, hfound, hpath⟩
    obtain rfl := Except.ok.inj (hscope.symm.trans hfound)
    obtain ⟨m, hm, rfl, hcovers⟩ := hcontains.1 hpath
    exact ⟨List.mem_map_of_mem hm, hcovers⟩
  · rintro ⟨hname, hcovers⟩
    obtain ⟨m, hm, rfl⟩ := List.mem_map.1 hname
    exact ⟨_, hscope, hcontains.2 ⟨m, hm, rfl, hcovers⟩⟩

/-- What a module's name covers among the files of the project are those in its directory.  A file
cannot have the name of a module, because a directory has it. -/
theorem covers_iff_topDirectory? (wellFormed : host.WellFormed) {name path : String}
    (hname : name ∈ (modulesAt host f base).map (·.name))
    (hpath : path ∈ f.filesBelow host.tree base [base]) :
    SearchScope.covers name path = true ↔ topDirectory? path = some name := by
  have top : ∀ root ∈ [base], base <+: root := List.forall_mem_singleton.2 List.prefix_rfl
  obtain ⟨names, hkeeps, rfl, -⟩ := (FileFilter.mem_filesBelow wellFormed.tree top).1 hpath
  have hnames := hkeeps.proper wellFormed.tree
  obtain ⟨other, hother, htop⟩ := mem_modulesAt_names.1 hname
  have hroot : ∀ part ∈ [name], IsPart part :=
    List.forall_mem_singleton.2 (isName_of_topDirectory? wellFormed.tree hother htop).1
  have hcovers : SearchScope.covers name (Path.joinParts names) = true ↔ [name] <+: names := by
    rw [← Path.covers_joinParts_iff hroot hnames.isPart,
      show Path.joinParts [name] = name from String.intercalate_singleton]
  rw [hcovers, topDirectory?_joinParts hnames.isPart]
  constructor
  · rintro ⟨rest, rfl⟩
    cases rest with
    | cons second rest => exact ⟨second, rest, rfl⟩
    | nil =>
        -- the file would stand where the directory of the other file stands
        obtain ⟨content, hfile, -⟩ := hkeeps
        obtain ⟨names', hkeeps', rfl, -⟩ := (FileFilter.mem_filesBelow wellFormed.tree top).1 hother
        obtain ⟨second, rest, rfl⟩ :=
          (topDirectory?_joinParts (hkeeps'.proper wellFormed.tree).isPart).1 htop
        obtain ⟨content', hbelow, -⟩ := hkeeps'
        rw [← List.singleton_append, ← List.append_assoc] at hbelow
        have hdirectory := wellFormed.tree.directory_above (List.cons_ne_nil _ _) hbelow
        have hnode := wellFormed.tree.node?_eq_some hfile
        rw [List.append_nil, hdirectory] at hnode
        cases hnode
  · rintro ⟨second, rest, rfl⟩
    exact ⟨second :: rest, rfl⟩

/-- A file of the project lies in the scope of a module exactly if its top directory has the name. -/
theorem inModule_iff_topDirectory? (wellFormed : host.WellFormed)
    (located : host.locate f.project = .ok base) {name path : String}
    (hpath : path ∈ f.filesBelow host.tree base [base]) :
    InModule host f name path ↔ topDirectory? path = some name := by
  rw [inModule_iff_covers wellFormed located]
  constructor
  · rintro ⟨hname, hcovers⟩
    exact (covers_iff_topDirectory? wellFormed hname hpath).1 hcovers
  · intro htop
    have hname := mem_modulesAt_names.2 ⟨path, hpath, htop⟩
    exact ⟨hname, (covers_iff_topDirectory? wellFormed hname hpath).2 htop⟩

/-- Modules divide up the files of a project.  Their names increase strictly; the selection of any
module has a scope, which is empty if no module has the selected name; and of the scopes of the
modules exactly one contains a file that lies in a directory, and none contains a file that does
not. -/
theorem modules_partition_files (wellFormed : host.WellFormed)
    (located : host.locate f.project = .ok base) :
    ∃ all modules, f.files host none = .ok all ∧ discoverModules host f = .ok modules ∧
      (modules.map (·.name)).Pairwise (· < ·) ∧
      (∀ selection, selection.kind = .oneModule →
        ∃ scope, searchScope host f.project (.ok f) selection = .ok scope ∧
          ((∀ m ∈ modules, selection.moduleName ≠ some m.name) → scope.isEmpty = true)) ∧
      ∀ path ∈ all,
        ('/' ∈ path.toList →
          ∃! name, name ∈ modules.map (·.name) ∧ InModule host f name path) ∧
        ('/' ∉ path.toList → ∀ name ∈ modules.map (·.name), ¬ InModule host f name path) := by
  refine ⟨_, modulesAt host f base, files_of_project located, discoverModules_eq located, ?_, ?_,
    fun path hpath => ?_⟩
  · rw [modulesAt, modulesOf_names]
    exact Text.sortedTexts_pairwise _
  · intro selection hkind
    refine ⟨_, searchScope_of_oneModule wellFormed located hkind, fun hnone => ?_⟩
    rw [selectedModules_eq_nil hnone]
    rfl
  · have hin : ∀ name, InModule host f name path ↔ topDirectory? path = some name :=
      fun _ => inModule_iff_topDirectory? wellFormed located hpath
    simp only [hin]
    constructor
    · intro hslash
      obtain ⟨name, htop⟩ := Option.ne_none_iff_exists'.1
        (mt topDirectory?_eq_none_iff.1 (not_not.2 hslash))
      refine ⟨name, ⟨mem_modulesAt_names.2 ⟨path, hpath, htop⟩, htop⟩, ?_⟩
      rintro other ⟨-, hother⟩
      exact Option.some.inj (hother.symm.trans htop)
    · intro hslash name _ htop
      rw [topDirectory?_eq_none_iff.2 hslash] at htop
      cases htop

end

/-- Of two modules one of whose names starts with the other, a file lies in the one that has its
directory, and the file beside them lies in neither. -/
theorem modules_partition_files_siblings :
    siblingHost.WellFormed ∧ siblingHost.locate "/p" = .ok ["p"] ∧
      ∃ modules, discoverModules siblingHost siblingFilter = .ok modules ∧
        modules.map (·.name) = ["api", "api2"] ∧
        (∃! name, name ∈ ["api", "api2"] ∧ InModule siblingHost siblingFilter name "api2/b.py") ∧
        ∀ name ∈ ["api", "api2"], ¬ InModule siblingHost siblingFilter name "c.py" := by
  have hlocated : siblingHost.locate "/p" = .ok ["p"] := eq_ok_of_toOption (by decide +kernel)
  have hfiles : siblingFilter.files siblingHost none = .ok ["api/a.py", "api2/b.py", "c.py"] := by
    have hsorted : Text.sortedTexts ["api/a.py", "api2/b.py", "c.py"] =
        ["api/a.py", "api2/b.py", "c.py"] :=
      Text.sortedTexts_of_increasing (by decide +kernel)
    rw [files_of_project hlocated, ← hsorted, FileFilter.filesBelow]
    refine congrArg Except.ok (congrArg Text.sortedTexts ?_)
    decide +kernel
  obtain ⟨all, modules, hall, hmodules, -, -, hparts⟩ :=
    modules_partition_files (f := siblingFilter) siblingHost_wellFormed hlocated
  obtain rfl := Except.ok.inj (hfiles.symm.trans hall)
  have hnames : modules.map (·.name) = ["api", "api2"] := by
    rw [discoverModules, hfiles] at hmodules
    obtain rfl := Except.ok.inj hmodules
    rw [modulesOf_names, show ["api/a.py", "api2/b.py", "c.py"].filterMap topDirectory? =
      ["api", "api2"] by decide +kernel]
    exact Text.sortedTexts_of_increasing (by decide +kernel)
  rw [hnames] at hparts
  exact ⟨siblingHost_wellFormed, hlocated, modules, hmodules, hnames,
    (hparts "api2/b.py" (by decide)).1 (by decide), (hparts "c.py" (by decide)).2 (by decide)⟩

end Project

end CallAtlas
