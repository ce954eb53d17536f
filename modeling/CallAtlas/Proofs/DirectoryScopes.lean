import CallAtlas.Proofs.Enumeration

/-!
# Selected directories

The text of a selected directory may climb out of the project and back again, start at the top or at a
home, and hold any number of slashes and points.  What it is resolved to is compared with the project
name by name, so whatever is selected exists and lies in the project, and its path from there is
written with names only.
-/

namespace CallAtlas.Project

namespace FileTree

/-- A walk that arrives somewhere went where its parts lead, and something stands there. -/
theorem walk_eq_some {t : FileTree} {path : String} {l arrived : Location} {parts : List String}
    {n : Node} (h : t.walk path l parts = .ok (some (arrived, n))) :
    arrived = parts.foldl Location.enter l ∧ t.node? arrived = some n := by
  induction parts generalizing l with
  | nil =>
      rw [walk, Except.ok.injEq, Option.map_eq_some_iff] at h
      obtain ⟨node, hnode, heq⟩ := h
      obtain ⟨rfl, rfl⟩ := Prod.mk.inj heq
      exact ⟨rfl, hnode⟩
  | cons part rest ih =>
      rw [walk] at h
      split at h
      · split at h
        · cases h
        · exact ih h
      · cases h

/-- What the path text of a location finds stands at the location. -/
theorem exists_node_of_exists? {t : FileTree} {current l : Location} (proper : l.Proper)
    (h : t.exists? current l.text = .ok true) : ∃ n, t.node? l = some n := by
  obtain ⟨found, hfound, hsome⟩ := bind_ok h
  obtain ⟨⟨arrived, n⟩, rfl⟩ := Option.isSome_iff_exists.1 (Except.ok.inj hsome)
  have hroot : Path.root l.text = "/" :=
    Path.root_append "/" (Path.head?_joinParts proper.isPart)
  have hparts : Path.parts l.text = l := Path.parts_root_append "/" proper.isPart
  unfold find at hfound
  split at hfound
  · cases hfound
  · split at hfound
    · cases hfound
    · rw [hroot, if_neg (by decide), hparts] at hfound
      obtain ⟨rfl, hnode⟩ := walk_eq_some hfound
      rw [Location.foldl_enter_of_proper [] proper, List.nil_append] at hnode
      exact ⟨n, hnode⟩

end FileTree

/-- The text of a directory denotes a location in a project: trimmed and with its home in place it is
not blank and leads there from the project, something is found there, and the location is that of the
project or lies below it. -/
structure DenotesInside (host : Host) (project : String) (directory : Option String) (l : Location) :
    Prop where
  notBlank : Text.trim (directory.getD "") ≠ ""
  leads : ∃ expanded, host.expandHome (Text.trim (directory.getD "")) = .ok expanded ∧
    host.locate (Path.join project expanded) = .ok l
  found : host.tree.exists? [] l.text = .ok true
  inside : ∃ base, host.locate project = .ok base ∧ base <+: l

section

variable {host : Host} {project : String}

/-- A directory is resolved to what its text denotes in the project. -/
theorem resolveDirectory_eq_some_iff {directory : Option String} {l : Location} :
    resolveDirectory host project directory = .ok (some l) ↔
      DenotesInside host project directory l := by
  unfold resolveDirectory
  dsimp only
  split
  · rename_i hblank
    constructor
    · intro h
      cases h
    · exact fun h => absurd hblank h.notBlank
  · rename_i hblank
    constructor
    · intro h
      obtain ⟨expanded, hexpanded, h⟩ := bind_ok h
      obtain ⟨location, hlocation, h⟩ := bind_ok h
      obtain ⟨found, hfound, h⟩ := bind_ok h
      split at h
      · cases h
      · rename_i hexists
        obtain ⟨base, hbase, h⟩ := bind_ok h
        split at h
        · rename_i hstarts
          obtain rfl := Option.some.inj (Except.ok.inj h)
          obtain rfl : found = true := by simpa using hexists
          exact ⟨hblank, ⟨expanded, hexpanded, hlocation⟩, hfound,
            ⟨base, hbase, List.isPrefixOf_iff_prefix.1 hstarts⟩⟩
        · cases h
    · rintro ⟨-, ⟨expanded, hexpanded, hlocation⟩, hfound, ⟨base, hbase, hstarts⟩⟩
      rw [hexpanded, ok_bind, hlocation, ok_bind, hfound, ok_bind, hbase, ok_bind,
        if_pos (List.isPrefixOf_iff_prefix.2 hstarts)]
      rfl

theorem sourceRoots_of_oneDirectory {filter : Except ProjectError FileFilter}
    {selection : Selection} (hkind : selection.kind = .oneDirectory) {roots : List Location}
    (h : sourceRoots host project filter selection = .ok roots) :
    ∃ found, resolveDirectory host project selection.directory = .ok found ∧
      roots = found.toList := by
  rw [sourceRoots, hkind] at h
  obtain ⟨found, hfound, h⟩ := bind_ok h
  refine ⟨found, ?_, (Except.ok.inj h).symm⟩
  cases hresolved : resolveDirectory host project selection.directory with
  | error fault =>
      rw [hresolved] at hfound
      cases hfound
  | ok found' =>
      rw [hresolved] at hfound
      exact congrArg Except.ok (Except.ok.inj hfound)

/-- The path of names that lead down from a location to another one, the empty text if there are
none. -/
structure IsPathFrom (base l : Location) (path : String) : Prop where
  leads : l = base ++ Path.parts path
  relative : Path.root path = ""
  named : path = "" ∨ ∀ part ∈ Path.components path, part ≠ "" ∧ part ≠ "." ∧ part ≠ ".."

theorem isPathFrom_relativePath {base l : Location} (inside : Inside base l) :
    IsPathFrom base l (relativePath base l) := by
  obtain ⟨⟨names, rfl⟩, proper⟩ := inside
  have hnames : Location.Proper names := proper.of_append.2
  have hpath : relativePath base (base ++ names) = Path.joinParts names := by
    rw [relativePath, Location.below?_eq_some_iff.2 rfl, Option.getD_some]
  rw [hpath]
  refine ⟨by rw [Path.parts_joinParts hnames.isPart], ?_, ?_⟩
  · have hroot := Path.root_append "" (Path.head?_joinParts hnames.isPart)
    rwa [show Path.root "" = "" by decide, String.empty_append] at hroot
  · by_cases hnil : names = []
    · exact .inl (hnil ▸ rfl)
    · right
      rw [Path.components, Path.split_joinParts hnil hnames.isPart]
      intro part hpart
      obtain ⟨⟨hempty, hpoint, -⟩, hup, -⟩ := hnames part hpart
      exact ⟨hempty, hpoint, hup⟩

/-- Whatever the text of a selected directory says, the roots of the selection, if they are found, are
none or one that exists and lies at the project or below it, namely what the text denotes there; and
the scope of the selection has in place of the root the path of names that lead there from the
project. -/
theorem directory_selection_inside (current : host.current.Proper) {selection : Selection}
    (hkind : selection.kind = .oneDirectory) {filter : Except ProjectError FileFilter}
    {roots : List Location} (h : sourceRoots host project filter selection = .ok roots) :
    (roots = [] ∨ ∃ base root node, host.locate project = .ok base ∧ roots = [root] ∧
      base <+: root ∧ host.tree.node? root = some node) ∧
    (∀ l, roots = [l] ↔ DenotesInside host project selection.directory l) ∧
    ∀ base, host.locate project = .ok base →
      ∃ scope, searchScope host project filter selection = .ok scope ∧
        List.Forall₂ (IsPathFrom base) roots scope.roots := by
  obtain ⟨found, hfound, rfl⟩ := sourceRoots_of_oneDirectory hkind h
  have hscope : ∀ base, host.locate project = .ok base →
      searchScope host project filter selection =
        .ok ⟨found.toList.map (relativePath base), false⟩ := by
    intro base hbase
    rw [searchScope, hbase, h, hkind]
    rfl
  have hdenotes : ∀ l, found.toList = [l] ↔ DenotesInside host project selection.directory l := by
    intro l
    rw [← resolveDirectory_eq_some_iff, hfound, Except.ok.injEq]
    cases found <;> simp
  cases found with
  | none => exact ⟨.inl rfl, hdenotes, fun base hbase => ⟨_, hscope base hbase, .nil⟩⟩
  | some root =>
      obtain ⟨-, ⟨expanded, -, hroot⟩, hexists, ⟨base, hbase, hbelow⟩⟩ := (hdenotes root).1 rfl
      have proper : root.Proper := current.resolve hroot
      obtain ⟨node, hnode⟩ := FileTree.exists_node_of_exists? proper hexists
      refine ⟨.inr ⟨base, root, node, hbase, rfl, hbelow, hnode⟩, hdenotes, fun base' hbase' => ?_⟩
      obtain rfl := Except.ok.inj (hbase.symm.trans hbase')
      exact ⟨_, hscope base hbase, .cons (isPathFrom_relativePath ⟨hbelow, proper⟩) .nil⟩

end

def climbingSelection : Selection := ⟨.oneDirectory, none, some " api/../../p//api2/./b.py "⟩

/-- The text ends at a file in a directory whose name goes on from that of another one. -/
theorem directory_selection_inside_climbing :
    siblingHost.current.Proper ∧
    sourceRoots siblingHost "/p" (.ok siblingFilter) climbingSelection =
      .ok [["p", "api2", "b.py"]] ∧
    ∃ scope, searchScope siblingHost "/p" (.ok siblingFilter) climbingSelection = .ok scope ∧
      List.Forall₂ (IsPathFrom ["p"]) [["p", "api2", "b.py"]] scope.roots ∧
      scope.roots = ["api2/b.py"] := by
  have current : siblingHost.current.Proper := by decide +kernel
  have hbase : siblingHost.locate "/p" = .ok ["p"] := eq_ok_of_toOption (by decide +kernel)
  have hroots : sourceRoots siblingHost "/p" (.ok siblingFilter) climbingSelection =
      .ok [["p", "api2", "b.py"]] :=
    eq_ok_of_toOption (by decide +kernel)
  obtain ⟨-, -, hscopes⟩ := directory_selection_inside current rfl hroots
  obtain ⟨scope, hscope, hpaths⟩ := hscopes ["p"] hbase
  refine ⟨current, hroots, scope, hscope, hpaths, ?_⟩
  have hwritten : ((searchScope siblingHost "/p" (.ok siblingFilter)
      climbingSelection).toOption.map (·.roots)) = some ["api2/b.py"] := by
    decide +kernel
  rw [hscope] at hwritten
  exact Option.some.inj hwritten

end CallAtlas.Project
