import CallAtlas.Project.Roots
import CallAtlas.Proofs.CallersMap
import CallAtlas.Proofs.Computation
import CallAtlas.Proofs.Paths
import Mathlib.Data.List.Sort

/-!
# Enumerated files and search scopes

Files are enumerated by walking the tree below some roots, and a search scope tells by the text of a
path whether a file lies in it.  Over a tree in which every file lies in directories, the files below
roots are exactly those files of the project that the scope of the roots contains, and this carries
over to whatever a selection means.
-/

namespace CallAtlas.Project

namespace Location

theorem below?_eq_some_iff {base l : Location} {rest : List String} :
    base.below? l = some rest ↔ l = base ++ rest := by
  unfold below?
  split
  · rename_i hstarts
    obtain ⟨rest', rfl⟩ := List.isPrefixOf_iff_prefix.1 hstarts
    rw [List.drop_left, Option.some.injEq, List.append_cancel_left_eq]
  · rename_i hstarts
    constructor
    · intro hnone
      cases hnone
    · rintro rfl
      exact absurd (List.isPrefixOf_iff_prefix.2 (List.prefix_append _ _)) hstarts

end Location

namespace FileTree

/-- A tree of named files and directories: nothing stands at one place twice, and everything stands
in a directory. -/
structure WellFormed (t : FileTree) : Prop where
  ne_top : ∀ entry ∈ t.entries, entry.1 ≠ []
  proper : ∀ entry ∈ t.entries, entry.1.Proper
  distinct : (t.entries.map (·.1)).Nodup
  parent : ∀ entry ∈ t.entries, t.node? entry.1.dropLast = some .directory

section

variable {t : FileTree} {l rest : Location} {n : Node}

theorem mem_entries_of_node? (hl : l ≠ []) (h : t.node? l = some n) : (l, n) ∈ t.entries := by
  rw [node?, if_neg hl] at h
  exact mem_of_lookup h

theorem WellFormed.node?_eq_some (h : t.WellFormed) (hmem : (l, n) ∈ t.entries) :
    t.node? l = some n := by
  rw [node?, if_neg (h.ne_top _ hmem), List.lookup_eq_some_iff]
  obtain ⟨before, after, heq⟩ := List.append_of_mem hmem
  refine ⟨before, after, heq, fun other hother => ?_⟩
  have hdistinct := h.distinct
  rw [heq, List.map_append, List.map_cons, List.nodup_append'] at hdistinct
  have hne : l ≠ other.1 := by
    rintro rfl
    exact hdistinct.2.2 (List.mem_map_of_mem hother) List.mem_cons_self
  simpa using hne

/-- What stands above an entry are directories.  The entry's own directory is one, and if it is not
the top, it is an entry itself. -/
theorem WellFormed.directory_above (h : t.WellFormed) (hrest : rest ≠ [])
    (hmem : (l ++ rest, n) ∈ t.entries) : t.node? l = some .directory := by
  induction rest using List.reverseRecOn generalizing n with
  | nil => exact absurd rfl hrest
  | append_singleton rest last ih =>
      have hparent := h.parent _ hmem
      rw [← List.append_assoc, List.dropLast_concat] at hparent
      by_cases hnil : rest = []
      · rwa [hnil, List.append_nil] at hparent
      · have habove : l ++ rest ≠ [] := List.append_ne_nil_of_right_ne_nil _ hnil
        exact ih hnil (mem_entries_of_node? habove hparent)

end

/-- The files below a location. -/
theorem mem_filesBelow {t : FileTree} {l : Location} {rest : List String}
    {content : List UInt8} :
    (rest, content) ∈ t.filesBelow l ↔ rest ≠ [] ∧ (l ++ rest, .file content) ∈ t.entries := by
  unfold filesBelow
  rw [List.mem_filterMap]
  constructor
  · rintro ⟨⟨loc, node⟩, hmem, heq⟩
    cases node with
    | directory => cases heq
    | file bytes =>
        dsimp only at heq
        split at heq
        · rename_i part below hbelow
          obtain ⟨rfl, rfl⟩ := Prod.mk.inj (Option.some.inj heq)
          rw [Location.below?_eq_some_iff.1 hbelow] at hmem
          exact ⟨List.cons_ne_nil _ _, hmem⟩
        · cases heq
  · rintro ⟨hne, hmem⟩
    obtain ⟨part, below, rfl⟩ := List.exists_cons_of_ne_nil hne
    refine ⟨_, hmem, ?_⟩
    dsimp only
    rw [Location.below?_eq_some_iff.2 rfl]

end FileTree

/-! ## Files below roots -/

namespace FileFilter

section

variable {tree : FileTree} {base : Location}

/-- The candidates at a root or below it are the files whose names start with those of the root. -/
theorem mem_candidates (wellFormed : tree.WellFormed) {below parts : List String}
    {content : List UInt8} :
    (parts, content) ∈ candidates tree base (base ++ below) ↔
      below <+: parts ∧ (base ++ parts, .file content) ∈ tree.entries := by
  unfold candidates
  rw [Location.below?_eq_some_iff.2 rfl]
  dsimp only
  split
  · -- the root is a file, so nothing lies below it
    rename_i bytes hnode
    have hne : base ++ below ≠ [] := by
      intro htop
      rw [htop, FileTree.node?, if_pos rfl] at hnode
      cases hnode
    constructor
    · intro hmem
      obtain ⟨rfl, rfl⟩ := Prod.mk.inj (List.mem_singleton.1 hmem)
      exact ⟨List.prefix_rfl, FileTree.mem_entries_of_node? hne hnode⟩
    · rintro ⟨⟨rest, rfl⟩, hmem⟩
      by_cases hrest : rest = []
      · rw [hrest, List.append_nil] at hmem ⊢
        rw [wellFormed.node?_eq_some hmem] at hnode
        cases hnode
        exact List.mem_singleton_self _
      · rw [← List.append_assoc] at hmem
        rw [wellFormed.directory_above hrest hmem] at hnode
        cases hnode
  · rename_i hnode
    rw [List.mem_map]
    constructor
    · rintro ⟨⟨rest, bytes⟩, hmem, heq⟩
      obtain ⟨rfl, rfl⟩ := Prod.mk.inj heq
      obtain ⟨-, hmem⟩ := FileTree.mem_filesBelow.1 hmem
      rw [List.append_assoc] at hmem
      exact ⟨List.prefix_append _ _, hmem⟩
    · rintro ⟨⟨rest, rfl⟩, hmem⟩
      rw [← List.append_assoc] at hmem
      have hrest : rest ≠ [] := by
        rintro rfl
        rw [List.append_nil] at hmem
        exact hnode content (wellFormed.node?_eq_some hmem)
      exact ⟨(rest, content), FileTree.mem_filesBelow.2 ⟨hrest, hmem⟩, rfl⟩

/-- A file that the filter keeps, with the names of its path from the project. -/
def Keeps (f : FileFilter) (tree : FileTree) (base : Location) (names : List String) : Prop :=
  ∃ content, (base ++ names, .file content) ∈ tree.entries ∧ f.keeps names content = true

theorem Keeps.proper (wellFormed : tree.WellFormed) {f : FileFilter} {names : List String}
    (h : f.Keeps tree base names) : Location.Proper names := by
  obtain ⟨content, hmem, -⟩ := h
  exact (Location.Proper.of_append (wellFormed.proper _ hmem)).2

/-- The files below roots are the kept ones whose names start with those of a root. -/
theorem mem_filesBelow (wellFormed : tree.WellFormed) {f : FileFilter} {roots : List Location}
    (inside : ∀ root ∈ roots, base <+: root) {path : String} :
    path ∈ f.filesBelow tree base roots ↔
      ∃ names, f.Keeps tree base names ∧ path = Path.joinParts names ∧
        ∃ root ∈ roots, root <+: base ++ names := by
  unfold filesBelow
  rw [Text.mem_sortedTexts, List.mem_flatMap]
  constructor
  · rintro ⟨root, hroot, hmem⟩
    obtain ⟨below, rfl⟩ := inside root hroot
    obtain ⟨⟨names, content⟩, hkept, rfl⟩ := List.mem_map.1 hmem
    obtain ⟨hcandidate, hkeeps⟩ := List.mem_filter.1 hkept
    obtain ⟨hstarts, hentry⟩ := (mem_candidates wellFormed).1 hcandidate
    exact ⟨names, ⟨content, hentry, hkeeps⟩, rfl, _, hroot,
      (List.prefix_append_right_inj base).2 hstarts⟩
  · rintro ⟨names, ⟨content, hentry, hkeeps⟩, rfl, root, hroot, hstarts⟩
    obtain ⟨below, rfl⟩ := inside root hroot
    have hstarts := (List.prefix_append_right_inj base).1 hstarts
    refine ⟨_, hroot, List.mem_map.2 ⟨(names, content), List.mem_filter.2 ⟨?_, hkeeps⟩, rfl⟩⟩
    exact (mem_candidates wellFormed).2 ⟨hstarts, hentry⟩

theorem files_proper (wellFormed : tree.WellFormed) {f : FileFilter} {path : String}
    (h : path ∈ f.filesBelow tree base [base]) :
    ∃ names, Location.Proper names ∧ path = Path.joinParts names := by
  have inside : ∀ root ∈ [base], base <+: root := List.forall_mem_singleton.2 List.prefix_rfl
  obtain ⟨names, hkeeps, hpath, -⟩ := (mem_filesBelow wellFormed inside).1 h
  exact ⟨names, hkeeps.proper wellFormed, hpath⟩

end

end FileFilter

structure Inside (base root : Location) : Prop where
  below : base <+: root
  proper : root.Proper

/-- A path of names is covered by the path of a root exactly if it lies at the root or below it. -/
theorem Inside.covers_iff {base root : Location} (inside : Inside base root)
    {names : List String} (hnames : Location.Proper names) :
    SearchScope.covers (relativePath base root) (Path.joinParts names) = true ↔
      root <+: base ++ names := by
  obtain ⟨⟨below, rfl⟩, proper⟩ := inside
  have hbelow : Location.Proper below := proper.of_append.2
  rw [relativePath, Location.below?_eq_some_iff.2 rfl, Option.getD_some,
    Path.covers_joinParts_iff hbelow.isPart hnames.isPart, List.prefix_append_right_inj]

def scopeOf (base : Location) (roots : List Location) (excludeTests : Bool) : SearchScope :=
  ⟨roots.map (relativePath base), excludeTests⟩

theorem scopeOf_contains_iff {base : Location} {roots : List Location} {excludeTests : Bool}
    {path : String} :
    (scopeOf base roots excludeTests).contains path = true ↔
      (∃ root ∈ roots, SearchScope.covers (relativePath base root) path = true) ∧
        (excludeTests = true → isTestFile path = false) := by
  have htests : (!(excludeTests && isTestFile path)) = true ↔
      (excludeTests = true → isTestFile path = false) := by
    cases excludeTests <;> simp
  rw [SearchScope.contains, Bool.and_eq_true, and_comm, scopeOf, htests, List.any_map,
    List.any_eq_true]
  rfl

namespace FileFilter

section

variable {tree : FileTree} {base : Location} {f : FileFilter} {roots : List Location}

/-- The files below roots are those files of the project that the path of a root covers. -/
theorem mem_filesBelow_iff_covers (wellFormed : tree.WellFormed)
    (inside : ∀ root ∈ roots, Inside base root) {path : String} :
    path ∈ f.filesBelow tree base roots ↔ path ∈ f.filesBelow tree base [base] ∧
      ∃ root ∈ roots, SearchScope.covers (relativePath base root) path = true := by
  have top : ∀ root ∈ [base], base <+: root := List.forall_mem_singleton.2 List.prefix_rfl
  rw [mem_filesBelow wellFormed fun root hroot => (inside root hroot).below,
    mem_filesBelow wellFormed top]
  constructor
  · rintro ⟨names, hkeeps, rfl, root, hroot, hstarts⟩
    refine ⟨⟨names, hkeeps, rfl, base, List.mem_singleton_self _, List.prefix_append _ _⟩, root,
      hroot, ?_⟩
    exact ((inside root hroot).covers_iff (hkeeps.proper wellFormed)).2 hstarts
  · rintro ⟨⟨names, hkeeps, rfl, -⟩, root, hroot, hcovers⟩
    refine ⟨names, hkeeps, rfl, root, hroot, ?_⟩
    exact ((inside root hroot).covers_iff (hkeeps.proper wellFormed)).1 hcovers

/-- The files below roots are those of the project in the scope of the roots, in order. -/
theorem filesBelow_eq_filter (wellFormed : tree.WellFormed)
    (inside : ∀ root ∈ roots, Inside base root) :
    f.filesBelow tree base roots =
      (f.filesBelow tree base [base]).filter (scopeOf base roots false).contains := by
  have hsorted : (f.filesBelow tree base roots).Pairwise (· < ·) := Text.sortedTexts_pairwise _
  have hfiltered : ((f.filesBelow tree base [base]).filter
      (scopeOf base roots false).contains).Pairwise (· < ·) :=
    (Text.sortedTexts_pairwise _).filter _
  refine hsorted.eq_of_mem_iff hfiltered fun path => ?_
  rw [mem_filesBelow_iff_covers wellFormed inside, List.mem_filter, scopeOf_contains_iff]
  simp

end

end FileFilter

/-! ## Roots of selections -/

/-- A machine whose current directory and files have names. -/
structure Host.WellFormed (host : Host) : Prop where
  current : host.current.Proper
  tree : host.tree.WellFormed

section

variable {host : Host} {f : FileFilter} {base : Location}

theorem files_of_located (located : host.locate f.project = .ok base) {roots : List String}
    {locations : List Location} (h : roots.mapM host.locate = .ok locations) :
    f.files host (some roots) = .ok (f.filesBelow host.tree base locations) := by
  rw [FileFilter.files, located]
  simp only [Option.getD_some]
  rw [h]
  rfl

theorem files_of_project (located : host.locate f.project = .ok base) :
    f.files host none = .ok (f.filesBelow host.tree base [base]) := by
  have hroot : [f.project].mapM host.locate = .ok [base] := by
    rw [List.mapM_cons, located]
    rfl
  exact files_of_located located hroot

theorem Host.WellFormed.proper (wellFormed : host.WellFormed) {path : String} {l : Location}
    (h : host.locate path = .ok l) : l.Proper :=
  wellFormed.current.resolve h

/-- The top directory of a file of the project has a name. -/
theorem isName_of_topDirectory? (wellFormed : host.tree.WellFormed) {path name : String}
    (hpath : path ∈ f.filesBelow host.tree base [base]) (h : topDirectory? path = some name) :
    IsName name := by
  obtain ⟨names, hnames, rfl⟩ := FileFilter.files_proper wellFormed hpath
  by_cases hnil : names = []
  · rw [hnil] at h
    cases h
  · rw [topDirectory?, Path.split_joinParts hnil hnames.isPart] at h
    split at h
    · obtain rfl := Option.some.inj h
      exact hnames _ List.mem_cons_self
    · cases h

/-- The directories of modules are roots inside the project. -/
theorem modules_inside (wellFormed : host.WellFormed) (located : host.locate f.project = .ok base)
    {modules : List SourceModule}
    (hmodules : modules ⊆ modulesOf f.project (f.filesBelow host.tree base [base])) :
    ∃ roots, modules.mapM (fun m => ofPathFault (host.locate m.root)) = .ok roots ∧
      ∀ root ∈ roots, Inside base root := by
  have hlocated : ∀ m ∈ modules, ∃ root, ofPathFault (host.locate m.root) = .ok root ∧
      Inside base root := by
    intro m hm
    obtain ⟨name, hname, rfl⟩ := List.mem_map.1 (hmodules hm)
    rw [Text.mem_sortedTexts, List.mem_filterMap] at hname
    obtain ⟨path, hpath, htop⟩ := hname
    have hname := isName_of_topDirectory? wellFormed.tree hpath htop
    have hroot : host.locate (Path.join f.project name) = .ok (base ++ [name]) :=
      Location.resolve_join located hname
    refine ⟨base ++ [name], ?_, List.prefix_append _ _, wellFormed.proper hroot⟩
    rw [hroot]
    rfl
  obtain ⟨roots, hroots⟩ := mapM_eq_ok fun m hm => (hlocated m hm).imp fun _ => And.left
  refine ⟨roots, hroots, fun root hroot => ?_⟩
  obtain ⟨m, hm, heq⟩ := exists_right_of_forall₂ (mapM_ok hroots).flip hroot
  obtain ⟨other, hother, hinside⟩ := hlocated m hm
  rw [heq] at hother
  obtain rfl := Except.ok.inj hother
  exact hinside

/-- A directory that is resolved lies inside the project, whatever its text says. -/
theorem resolveDirectory_inside (wellFormed : host.WellFormed)
    (located : host.locate f.project = .ok base) {directory : Option String} {root : Location}
    (h : resolveDirectory host f.project directory = .ok (some root)) : Inside base root := by
  unfold resolveDirectory at h
  dsimp only at h
  rw [located] at h
  split at h
  · cases h
  · obtain ⟨expanded, -, h⟩ := bind_ok h
    obtain ⟨location, hlocation, h⟩ := bind_ok h
    obtain ⟨found, -, h⟩ := bind_ok h
    split at h
    · cases h
    · obtain ⟨base', hbase', h⟩ := bind_ok h
      obtain rfl := Except.ok.inj hbase'
      split at h
      · rename_i hstarts
        obtain rfl := Option.some.inj (Except.ok.inj h)
        exact ⟨List.isPrefixOf_iff_prefix.1 hstarts, wellFormed.proper hlocation⟩
      · cases h

theorem discoverModules_eq (located : host.locate f.project = .ok base) :
    discoverModules host f = .ok (modulesOf f.project (f.filesBelow host.tree base [base])) := by
  rw [discoverModules, files_of_project located]
  rfl

/-- The roots of a selection are found, and they lie inside the project, unless the text of a selected
directory cannot be looked up. -/
theorem sourceRoots_inside (wellFormed : host.WellFormed)
    (located : host.locate f.project = .ok base) (selection : Selection) :
    (∃ roots, sourceRoots host f.project (.ok f) selection = .ok roots ∧
      ∀ root ∈ roots, Inside base root) ∨
    ∃ fault, selection.kind = .oneDirectory ∧
      resolveDirectory host f.project selection.directory = .error fault ∧
      sourceRoots host f.project (.ok f) selection = .error (.path fault) := by
  unfold sourceRoots
  cases hkind : selection.kind with
  | withTests =>
      left
      refine ⟨[base], ?_, List.forall_mem_singleton.2 ⟨List.prefix_rfl, wellFormed.proper located⟩⟩
      rw [located]
      rfl
  | withoutTests =>
      left
      obtain ⟨roots, hroots, hinside⟩ := modules_inside wellFormed located (List.Subset.refl _)
      refine ⟨roots, ?_, hinside⟩
      rw [← hroots]
      dsimp only [bind, Except.bind]
      rw [discoverModules_eq located]
      rfl
  | oneModule =>
      left
      have hselected : selectedModules (modulesOf f.project (f.filesBelow host.tree base [base]))
          selection.moduleName ⊆ modulesOf f.project (f.filesBelow host.tree base [base]) :=
        fun m hm => (List.mem_filter.1 hm).1
      obtain ⟨roots, hroots, hinside⟩ := modules_inside wellFormed located hselected
      refine ⟨roots, ?_, hinside⟩
      rw [← hroots]
      dsimp only [bind, Except.bind]
      rw [discoverModules_eq located]
      rfl
  | oneDirectory =>
      cases hdirectory : resolveDirectory host f.project selection.directory with
      | error fault => exact .inr ⟨fault, rfl, rfl, rfl⟩
      | ok found =>
          left
          refine ⟨found.toList, rfl, fun root hroot => ?_⟩
          obtain rfl := Option.mem_toList.1 hroot
          exact resolveDirectory_inside wellFormed located hdirectory

theorem searchScope_of_ok (located : host.locate f.project = .ok base) {selection : Selection}
    {roots : List Location} (h : sourceRoots host f.project (.ok f) selection = .ok roots) :
    searchScope host f.project (.ok f) selection =
      .ok (scopeOf base roots (selection.kind = .withoutTests)) := by
  rw [searchScope, located, h]
  rfl

theorem searchScope_of_error (located : host.locate f.project = .ok base) {selection : Selection}
    {e : ProjectError} (h : sourceRoots host f.project (.ok f) selection = .error e) :
    searchScope host f.project (.ok f) selection = .error e := by
  rw [searchScope, located, h]
  rfl

/-- The path texts of proper locations denote these. -/
theorem mapM_locate_text (host : Host) {roots : List Location} (proper : ∀ root ∈ roots, root.Proper) :
    (roots.map Location.text).mapM host.locate = .ok roots := by
  induction roots with
  | nil => rfl
  | cons root roots ih =>
      obtain ⟨hroot, hroots⟩ := List.forall_mem_cons.1 proper
      have hlocated : host.locate root.text = .ok root := hroot.resolve_text host.current
      rw [List.map_cons, List.mapM_cons, hlocated, ih hroots]
      rfl

/-- Enumeration and search scopes agree.  The files below roots inside the project are, in increasing
order, the files of the project that the scope of the roots contains, however the roots overlap.  The
scope of a selection contains a file of the project exactly if the file is enumerated below the
selection's roots and, where tests are left out, is no test; if the text of a selected directory cannot
be looked up, neither roots nor scope are found. -/
theorem files_iff_scope (wellFormed : host.WellFormed)
    (located : host.locate f.project = .ok base) :
    ∃ all, f.files host none = .ok all ∧
      (∀ roots locations, roots.mapM host.locate = .ok locations →
        (∀ l ∈ locations, base <+: l) →
        ∃ kept, f.files host (some roots) = .ok kept ∧ kept.Pairwise (· < ·) ∧
          kept = all.filter (scopeOf base locations false).contains) ∧
      ∀ selection,
        (∃ roots scope kept, sourceRoots host f.project (.ok f) selection = .ok roots ∧
          searchScope host f.project (.ok f) selection = .ok scope ∧
          f.files host (some (roots.map Location.text)) = .ok kept ∧
          ∀ path ∈ all, scope.contains path = true ↔
            path ∈ kept ∧ (selection.kind = .withoutTests → isTestFile path = false)) ∨
        ∃ fault, selection.kind = .oneDirectory ∧
          resolveDirectory host f.project selection.directory = .error fault ∧
          sourceRoots host f.project (.ok f) selection = .error (.path fault) ∧
          searchScope host f.project (.ok f) selection = .error (.path fault) := by
  refine ⟨_, files_of_project located, ?_, ?_⟩
  · intro roots locations hlocations hbelow
    have inside : ∀ root ∈ locations, Inside base root := by
      intro root hroot
      obtain ⟨path, -, hpath⟩ := exists_right_of_forall₂ (mapM_ok hlocations).flip hroot
      exact ⟨hbelow root hroot, wellFormed.proper hpath⟩
    exact ⟨_, files_of_located located hlocations, Text.sortedTexts_pairwise _,
      FileFilter.filesBelow_eq_filter wellFormed.tree inside⟩
  · intro selection
    rcases sourceRoots_inside wellFormed located selection with
      ⟨roots, hroots, inside⟩ | ⟨fault, hkind, hdirectory, hroots⟩
    · have htexts := mapM_locate_text host fun root hroot => (inside root hroot).proper
      refine .inl ⟨roots, _, _, hroots, searchScope_of_ok located hroots,
        files_of_located located htexts, fun path hpath => ?_⟩
      rw [scopeOf_contains_iff, FileFilter.mem_filesBelow_iff_covers wellFormed.tree inside,
        and_iff_right hpath, decide_eq_true_iff]
    · exact .inr ⟨fault, hkind, hdirectory, hroots, searchScope_of_error located hroots⟩

end

/-- A project with two directories one of whose names starts with the other, and a file beside
them. -/
def siblingHost : Host where
  tree := ⟨[(["p"], .directory), (["p", "api"], .directory), (["p", "api", "a.py"], .file []),
    (["p", "api2"], .directory), (["p", "api2", "b.py"], .file []), (["p", "c.py"], .file [])]⟩
  current := ["p", "api"]
  environment := []
  ownHome := "/"
  homes := []

def siblingFilter : FileFilter := ⟨"/p", 1024, 64, 100, [".py"], defaultExcludes⟩

theorem siblingHost_wellFormed : siblingHost.WellFormed := by
  refine ⟨by decide +kernel, by decide +kernel, by decide +kernel, by decide +kernel, ?_⟩
  intro entry hentry
  simp only [siblingHost, List.mem_cons, List.not_mem_nil, or_false] at hentry
  rcases hentry with rfl | rfl | rfl | rfl | rfl | rfl <;> rfl

/-- Below a directory, and below a file in it that is named once more from inside, there is only that
file; a directory whose name goes on differently has nothing to do with it. -/
theorem files_iff_scope_siblings :
    siblingHost.WellFormed ∧ siblingHost.locate "/p" = .ok ["p"] ∧
      ∃ kept, siblingFilter.files siblingHost (some ["/p/api", "../api/./a.py"]) = .ok kept ∧
        kept = ["api/a.py", "api2/b.py", "c.py"].filter
          (scopeOf ["p"] [["p", "api"], ["p", "api", "a.py"]] false).contains ∧
        kept = ["api/a.py"] := by
  have hlocated : siblingHost.locate "/p" = .ok ["p"] := eq_ok_of_toOption (by decide +kernel)
  have hroots : ["/p/api", "../api/./a.py"].mapM siblingHost.locate =
      .ok [["p", "api"], ["p", "api", "a.py"]] := eq_ok_of_toOption (by decide +kernel)
  have hsorted : Text.sortedTexts ["api/a.py", "api2/b.py", "c.py"] =
      ["api/a.py", "api2/b.py", "c.py"] :=
    (Text.sortedTexts_pairwise _).eq_of_mem_iff (by decide +kernel) fun _ => Text.mem_sortedTexts
  have hfiles : siblingFilter.files siblingHost none = .ok ["api/a.py", "api2/b.py", "c.py"] := by
    rw [files_of_project hlocated, ← hsorted, FileFilter.filesBelow]
    refine congrArg Except.ok (congrArg Text.sortedTexts ?_)
    decide +kernel
  obtain ⟨all, hall, hbelow, -⟩ :=
    files_iff_scope (f := siblingFilter) siblingHost_wellFormed hlocated
  obtain rfl := Except.ok.inj (hfiles.symm.trans hall)
  obtain ⟨kept, hkept, -, heq⟩ := hbelow _ _ hroots (by decide)
  refine ⟨siblingHost_wellFormed, hlocated, kept, hkept, heq, ?_⟩
  rw [heq]
  decide +kernel

end CallAtlas.Project
