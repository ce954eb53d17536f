import CallAtlas.Proofs.DirectoryScopes
import CallAtlas.Run.Execution

/-!
# Directories that cannot be used

The text of a selected directory may be blank, lead out of the project or lead to nothing: then
there are no roots, and a run has nothing to look at.  It may also be a text that cannot be looked
up, since it names the home of an unknown account, holds a null character or leads to a name or a
path that is too long.  These texts are told apart from the others here, by where a text leads and
by what stands there: they are the texts on which a run fails.
-/

namespace CallAtlas

namespace Text

theorem exists_mem_splitChars {separator c : Char} {s : List Char} (hc : c ∈ s)
    (hne : c ≠ separator) : ∃ piece ∈ splitChars separator s, c ∈ piece := by
  induction s with
  | nil => cases hc
  | cons first rest ih =>
      rw [splitChars]
      split
      · rename_i hfirst
        have hrest : c ∈ rest := List.mem_of_ne_of_mem (hfirst ▸ hne) hc
        obtain ⟨piece, hpiece, hc⟩ := ih hrest
        exact ⟨piece, List.mem_cons_of_mem _ hpiece, hc⟩
      · cases hpieces : splitChars separator rest with
        | nil => exact absurd hpieces (splitChars_ne_nil separator rest)
        | cons head pieces =>
            rw [hpieces] at ih
            dsimp only
            rcases List.mem_cons.1 hc with rfl | hc
            · exact ⟨_, List.mem_cons_self, List.mem_cons_self⟩
            · obtain ⟨piece, hpiece, hc⟩ := ih hc
              rcases List.mem_cons.1 hpiece with rfl | hpiece
              · exact ⟨_, List.mem_cons_self, List.mem_cons_of_mem _ hc⟩
              · exact ⟨piece, List.mem_cons_of_mem _ hpiece, hc⟩

theorem mem_intercalate_of_mem {separator : String} {parts : List String} {part : String} {c : Char}
    (hpart : part ∈ parts) (hc : c ∈ part.toList) :
    c ∈ (String.intercalate separator parts).toList := by
  induction parts with
  | nil => cases hpart
  | cons first parts ih =>
      cases parts with
      | nil =>
          obtain rfl := List.mem_singleton.1 hpart
          rwa [String.intercalate_singleton]
      | cons second parts =>
          rw [String.intercalate_cons_cons, String.toList_append, String.toList_append]
          rcases List.mem_cons.1 hpart with rfl | hpart
          · exact List.mem_append_left _ (List.mem_append_left _ hc)
          · exact List.mem_append_right _ (ih hpart)

end Text

namespace Project

namespace Path

theorem exists_mem_parts {path : String} {c : Char} (hc : c ∈ path.toList) (hslash : c ≠ '/')
    (hpoint : c ≠ '.') : ∃ part ∈ parts path, c ∈ part.toList := by
  obtain ⟨piece, hpiece, hmem⟩ := Text.exists_mem_splitChars hc hslash
  have hlist : c ∈ (String.ofList piece).toList := by rwa [String.toList_ofList]
  refine ⟨String.ofList piece, List.mem_filter.2 ⟨List.mem_map_of_mem hpiece, ?_⟩, hlist⟩
  refine decide_eq_true ⟨?_, ?_⟩
  · intro hempty
    rw [hempty] at hlist
    cases hlist
  · intro hdot
    rw [hdot] at hlist
    exact hpoint (List.mem_singleton.1 hlist)

end Path

namespace Location

theorem resolve_of_null {path : String} (h : '\x00' ∈ path.toList) (current : Location) :
    Location.resolve current path = .error .nullByte :=
  if_pos (List.contains_iff_mem.2 h)

theorem resolve_of_notMem {path : String} (h : '\x00' ∉ path.toList) (current : Location) :
    Location.resolve current path = .ok (ofPath current path) :=
  if_neg fun hc => h (List.contains_iff_mem.1 hc)

/-- A null character in a part is one in the joined parts. -/
theorem resolve_root_append_of_null (current : Location) (path : String) {parts : List String}
    {part : String} (hpart : part ∈ parts) (hnull : '\x00' ∈ part.toList) :
    Location.resolve current (Path.root path ++ Path.joinParts parts) = .error .nullByte := by
  refine resolve_of_null ?_ current
  rw [String.toList_append]
  exact List.mem_append_right _ (Text.mem_intercalate_of_mem hpart hnull)

/-- An empty text and a point both denote the current directory. -/
theorem resolve_point (current : Location) (text : String) :
    Location.resolve current (if text = "" then "." else text) = Location.resolve current text := by
  split
  · rename_i hempty
    rw [hempty]
    rfl
  · rfl

/-- A path below that of a location is looked up as the path is from the location. -/
theorem resolve_join_path {current base : Location} {project : String}
    (located : Location.resolve current project = .ok base) (path : String) :
    Location.resolve current (Path.join project path) = Location.resolve base path := by
  have hproject : '\x00' ∉ project.toList := by
    intro hnull
    rw [resolve_of_null hnull] at located
    cases located
  rw [resolve_of_notMem hproject, Except.ok.injEq] at located
  subst located
  have hplain := Path.parts_without_null fun hc => hproject (List.contains_iff_mem.1 hc)
  unfold Path.join
  by_cases hnull : '\x00' ∈ path.toList
  · -- joining drops empty parts and points only, so the null character stays
    obtain ⟨part, hpart, hmem⟩ := Path.exists_mem_parts hnull (by decide) (by decide)
    rw [resolve_of_null hnull]
    split
    · rw [resolve_point, resolve_root_append_of_null _ _ (List.mem_append_right _ hpart) hmem]
    · rw [Path.normalize, resolve_point, resolve_root_append_of_null _ _ hpart hmem]
  · have hparts := Path.parts_without_null fun hc => hnull (List.contains_iff_mem.1 hc)
    rw [resolve_of_notMem hnull]
    split
    · rename_i hroot
      rw [resolve_point, resolve_root_append _ _ (List.forall_mem_append.2 ⟨hplain, hparts⟩),
        List.foldl_append]
      unfold ofPath
      rw [if_pos hroot]
    · rename_i hroot
      rw [Path.normalize, resolve_point, resolve_root_append _ _ hparts, ofPath, if_neg hroot,
        if_neg hroot]

end Location

/-! ## Names and paths that are too long -/

namespace FileTree

/-- On the way from a location down to another one there is a name that is too long for the
directory in which it would stand. -/
def LongName (t : FileTree) (l : Location) (names : List String) : Prop :=
  ∃ above name rest, names = above ++ name :: rest ∧ t.node? (l ++ above) = some .directory ∧
    nameLimit < name.utf8ByteSize

/-- A location whose path is too long, or on the way to which there is a name that is too long. -/
def TooLong (t : FileTree) (l : Location) : Prop :=
  pathLimit < l.text.utf8ByteSize ∨ t.LongName [] l

section

variable {t : FileTree} {path : String} {l : Location} {names : List String}

theorem WellFormed.directory_of_below (wellFormed : t.WellFormed) {name : String} {n : Node}
    (h : t.node? (l ++ name :: names) = some n) : t.node? l = some .directory := by
  have hne : l ++ name :: names ≠ [] := List.append_ne_nil_of_right_ne_nil _ (List.cons_ne_nil _ _)
  exact wellFormed.directory_above (List.cons_ne_nil _ _) (mem_entries_of_node? hne h)

/-- A name that is too long stops a walk, wherever it stands: all that is above it are directories.
-/
theorem WellFormed.walk_of_longName (wellFormed : t.WellFormed) (proper : Location.Proper names)
    (long : t.LongName l names) : t.walk path l names = .error (.nameTooLong path) := by
  induction names generalizing l with
  | nil =>
      obtain ⟨above, name, rest, heq, -, -⟩ := long
      exact absurd heq.symm (List.append_ne_nil_of_right_ne_nil _ (List.cons_ne_nil _ _))
  | cons first names ih =>
      obtain ⟨hfirst, hnames⟩ := List.forall_mem_cons.1 proper
      obtain ⟨above, name, rest, heq, hdirectory, hlong⟩ := long
      cases above with
      | nil =>
          obtain ⟨rfl, rfl⟩ := List.cons.inj heq
          rw [List.append_nil] at hdirectory
          rw [walk, hdirectory]
          exact if_pos hlong
      | cons other above =>
          obtain ⟨rfl, rfl⟩ := List.cons.inj heq
          rw [walk, wellFormed.directory_of_below hdirectory]
          dsimp only
          split
          · rfl
          · rw [Location.enter_of_isName l hfirst]
            refine ih hnames ⟨above, name, rest, rfl, ?_, hlong⟩
            rwa [List.append_assoc, List.singleton_append]

/-- Without such a name a walk finds what stands at its end. -/
theorem WellFormed.walk_of_not_longName (wellFormed : t.WellFormed)
    (proper : Location.Proper names) (short : ¬ t.LongName l names) :
    t.walk path l names = .ok ((t.node? (l ++ names)).map fun n => (l ++ names, n)) := by
  induction names generalizing l with
  | nil => rw [walk, List.append_nil]
  | cons first names ih =>
      obtain ⟨hfirst, hnames⟩ := List.forall_mem_cons.1 proper
      rw [walk]
      split
      · rename_i hdirectory
        have hshort : ¬ nameLimit < first.utf8ByteSize := by
          intro hlong
          refine short ⟨[], first, names, rfl, ?_, hlong⟩
          rwa [List.append_nil]
        have hrest : ¬ t.LongName (l ++ [first]) names := by
          rintro ⟨above, name, rest, rfl, hnode, hlong⟩
          rw [List.append_assoc] at hnode
          exact short ⟨first :: above, name, rest, rfl, hnode, hlong⟩
        rw [if_neg hshort, Location.enter_of_isName l hfirst, ih hnames hrest, List.append_assoc,
          List.singleton_append]
      · -- nothing stands below what is no directory
        rename_i hnode
        have hnone : t.node? (l ++ first :: names) = none := by
          by_contra hsome
          obtain ⟨n, hn⟩ := Option.ne_none_iff_exists'.1 hsome
          exact hnode (wellFormed.directory_of_below hn)
        rw [hnone]
        rfl

theorem find_text {current : Location} (proper : l.Proper) :
    t.find current l.text =
      if pathLimit < l.text.utf8ByteSize then .error (.nameTooLong l.text)
      else t.walk l.text [] l := by
  have hroot : Path.root l.text = "/" :=
    Path.root_append "/" (Path.head?_joinParts proper.isPart)
  have hparts : Path.parts l.text = l := Path.parts_root_append "/" proper.isPart
  have hnull : ¬ l.text.toList.contains '\x00' = true := by
    intro hnull
    have hresolve := proper.resolve_text current
    rw [Location.resolve, if_pos hnull] at hresolve
    cases hresolve
  have htop : (if Path.root l.text = "" then current else []) = [] := by
    rw [hroot]
    rfl
  rw [find, if_neg hnull, htop, hparts]

/-- The path text of a location that is too long cannot be looked up. -/
theorem WellFormed.exists?_of_tooLong (wellFormed : t.WellFormed) (proper : l.Proper)
    (long : t.TooLong l) (current : Location) :
    t.exists? current l.text = .error (.nameTooLong l.text) := by
  rw [exists?, find_text proper]
  split
  · rfl
  · rename_i hpath
    rw [wellFormed.walk_of_longName proper (long.resolve_left hpath)]
    rfl

/-- The path text of any other location exists exactly if something stands there. -/
theorem WellFormed.exists?_of_not_tooLong (wellFormed : t.WellFormed) (proper : l.Proper)
    (short : ¬ t.TooLong l) (current : Location) :
    t.exists? current l.text = .ok (t.node? l).isSome := by
  obtain ⟨hpath, hnames⟩ := not_or.1 short
  rw [exists?, find_text proper, if_neg hpath, wellFormed.walk_of_not_longName proper hnames,
    ok_bind, Option.isSome_map, List.nil_append]
  rfl

end

end FileTree

/-! ## Homes of unknown accounts -/

/-- A relative path starts with `~` and the name of an account, or with `~` alone for the program's own
account. -/
def NamesHome (path : String) (account : List Char) : Prop :=
  ∃ rest, Path.root path = "" ∧ Path.parts path = String.ofList ('~' :: account) :: rest

/-- A path starts with the home of an account that has none. -/
def Host.LacksHome (host : Host) (path : String) : Prop :=
  ∃ account, NamesHome path account ∧ host.home account = .error .unknownHome

theorem Host.home_of_null (host : Host) {account : List Char} (h : '\x00' ∈ account) :
    host.home account = .error .nullByte :=
  if_pos (List.contains_iff_mem.2 h)

theorem Host.home_error {host : Host} {account : List Char} {fault : PathFault}
    (h : host.home account = .error fault) :
    fault = .nullByte ∧ '\x00' ∈ account ∨ fault = .unknownHome := by
  unfold Host.home at h
  split at h
  · rename_i hnull
    cases h
    exact .inl ⟨rfl, List.contains_iff_mem.1 hnull⟩
  · right
    dsimp only at h
    split at h
    · cases h
      rfl
    · split at h
      · cases h
      · cases h
        rfl
      · cases h

/-- A path cannot be expanded exactly if the home is missing that it starts with, or cannot be looked
up. -/
theorem Host.expandHome_eq_error_iff {host : Host} {path : String} {fault : PathFault} :
    host.expandHome path = .error fault ↔
      ∃ account, NamesHome path account ∧ host.home account = .error fault := by
  unfold Host.expandHome
  split
  · rename_i first rest hroot hparts
    split
    · rename_i account hfirst
      have hname : first = String.ofList ('~' :: account) := by rw [← hfirst, String.ofList_toList]
      have hnames : ∀ account', NamesHome path account' ↔ account' = account := by
        intro account'
        constructor
        · rintro ⟨rest', -, hparts'⟩
          rw [hparts, hname] at hparts'
          obtain ⟨heq, -⟩ := List.cons.inj hparts'
          exact (List.cons.inj (String.ofList_injective heq)).2.symm
        · rintro rfl
          exact ⟨rest, hroot, by rw [hparts, hname]⟩
      simp only [hnames, exists_eq_left]
      cases host.home account with
      | ok home =>
          constructor
          · intro h
            cases h
          · intro h
            cases h
      | error fault' => exact Iff.rfl
    · rename_i hplain
      constructor
      · intro h
        cases h
      · rintro ⟨account, ⟨rest', -, hparts'⟩, -⟩
        rw [hparts] at hparts'
        obtain ⟨rfl, -⟩ := List.cons.inj hparts'
        exact absurd (String.toList_ofList ..) (hplain account)
  · rename_i hother
    constructor
    · intro h
      cases h
    · rintro ⟨account, ⟨rest, hroot, hparts⟩, -⟩
      exact absurd hparts (hother _ _ hroot)

/-! ## What becomes of a directory -/

/-- The text of the directory of a selection, without the blanks around it. -/
def Selection.directoryText (selection : Selection) : String :=
  Text.trim (selection.directory.getD "")

/-- A text that is not blank leads from a location to another one, with the home it starts from in
place. -/
structure Leads (host : Host) (base : Location) (text : String) (l : Location) : Prop where
  notBlank : text ≠ ""
  path : ∃ path, host.expandHome text = .ok path ∧ '\x00' ∉ path.toList ∧ l = .ofPath base path

/-- A text cannot be looked up from a location. -/
inductive Untraceable (host : Host) (base : Location) (text : String) : PathFault → Prop where
  | unknownHome (lacks : host.LacksHome text) : Untraceable host base text .unknownHome
  | nullAccount {account : List Char} (names : NamesHome text account) (null : '\x00' ∈ account) :
      Untraceable host base text .nullByte
  | nullByte {path : String} (expands : host.expandHome text = .ok path)
      (null : '\x00' ∈ path.toList) : Untraceable host base text .nullByte
  | nameTooLong {l : Location} (leads : Leads host base text l) (long : host.tree.TooLong l) :
      Untraceable host base text (.nameTooLong l.text)

/-- A text leads from the location of a project to something that exists there or below. -/
structure Selects (host : Host) (base : Location) (text : String) (l : Location) : Prop where
  leads : Leads host base text l
  inside : base <+: l
  found : ∃ node, host.tree.node? l = some node

/-- What the text of a directory is resolved to: the fault for which it cannot be looked up, or, if
there is none, whatever the text selects. -/
def Resolves (host : Host) (base : Location) (text : String) :
    Except PathFault (Option Location) → Prop
  | .error fault => Untraceable host base text fault
  | .ok found => (¬ ∃ fault, Untraceable host base text fault) ∧
      ∀ l, found = some l ↔ Selects host base text l

section

variable {host : Host} {project : String} {base : Location}

theorem Leads.unique {text : String} {l l' : Location} (leads : Leads host base text l)
    (leads' : Leads host base text l') : l = l' := by
  obtain ⟨-, path, hpath, -, rfl⟩ := leads
  obtain ⟨-, path', hpath', -, rfl⟩ := leads'
  obtain rfl := Except.ok.inj (hpath.symm.trans hpath')
  rfl

theorem resolves_blank : Resolves host base "" (.ok none) := by
  have hexpands : host.expandHome "" = .ok "" := rfl
  refine ⟨?_, fun l => ⟨nofun, fun selects => absurd rfl selects.leads.notBlank⟩⟩
  rintro ⟨fault, ⟨account, ⟨rest, -, hparts⟩, -⟩ | ⟨⟨rest, -, hparts⟩, -⟩ | ⟨hpath, hnull⟩ |
    ⟨leads, -⟩⟩
  · cases hparts
  · cases hparts
  · obtain rfl := Except.ok.inj (hexpands.symm.trans hpath)
    cases hnull
  · exact leads.notBlank rfl

/-- A text that leads to a location which is not too long selects the location, if it lies inside
and something stands there, and nothing otherwise. -/
theorem Leads.resolves {text : String} {l : Location} (leads : Leads host base text l)
    (short : ¬ host.tree.TooLong l) :
    Resolves host base text
      (.ok (if base.isPrefixOf l && (host.tree.node? l).isSome then some l else none)) := by
  obtain ⟨path, hpath, plain, -⟩ := leads.path
  refine ⟨?_, fun l' => ?_⟩
  · rintro ⟨fault, lacks | ⟨names, hnull⟩ | ⟨hpath', hnull⟩ | ⟨leads', long⟩⟩
    · cases hpath.symm.trans (Host.expandHome_eq_error_iff.2 lacks)
    · cases hpath.symm.trans (Host.expandHome_eq_error_iff.2 ⟨_, names, host.home_of_null hnull⟩)
    · obtain rfl := Except.ok.inj (hpath.symm.trans hpath')
      exact plain hnull
    · exact short (leads'.unique leads ▸ long)
  · rw [Option.ite_none_right_eq_some, Option.some.injEq, Bool.and_eq_true,
      List.isPrefixOf_iff_prefix, Option.isSome_iff_exists]
    constructor
    · rintro ⟨⟨inside, found⟩, rfl⟩
      exact ⟨leads, inside, found⟩
    · rintro ⟨leads', inside, found⟩
      obtain rfl := leads'.unique leads
      exact ⟨⟨inside, found⟩, rfl⟩

/-- Every text of a directory is resolved to what it selects, or cannot be looked up. -/
theorem resolveDirectory_resolves (wellFormed : host.WellFormed)
    (located : host.locate project = .ok base) (directory : Option String) :
    Resolves host base (Text.trim (directory.getD ""))
      (resolveDirectory host project directory) := by
  unfold resolveDirectory
  dsimp only
  generalize Text.trim (directory.getD "") = text
  split
  · rename_i hblank
    rw [hblank]
    exact resolves_blank
  · rename_i hblank
    cases hexpands : host.expandHome text with
    | error fault =>
        obtain ⟨account, names, hhome⟩ := Host.expandHome_eq_error_iff.1 hexpands
        rcases Host.home_error hhome with ⟨rfl, hnull⟩ | rfl
        · exact .nullAccount names hnull
        · exact .unknownHome ⟨account, names, hhome⟩
    | ok path =>
        have hjoin : host.locate (Path.join project path) = Location.resolve base path :=
          Location.resolve_join_path located path
        rw [ok_bind, hjoin]
        by_cases hnull : '\x00' ∈ path.toList
        · rw [Location.resolve_of_null hnull]
          exact .nullByte hexpands hnull
        · have leads : Leads host base text (.ofPath base path) :=
            ⟨hblank, path, hexpands, hnull, rfl⟩
          have hresolve := Location.resolve_of_notMem hnull base
          have proper := (wellFormed.proper located).resolve hresolve
          rw [hresolve, ok_bind]
          -- whether something exists is asked before whether it lies inside, so a location outside
          -- the project can be too long as well
          by_cases hlong : host.tree.TooLong (.ofPath base path)
          · rw [wellFormed.tree.exists?_of_tooLong proper hlong]
            exact .nameTooLong leads hlong
          · rw [wellFormed.tree.exists?_of_not_tooLong proper hlong, ok_bind, located, ok_bind]
            have resolves := leads.resolves hlong
            generalize (host.tree.node? (.ofPath base path)).isSome = found at resolves ⊢
            generalize base.isPrefixOf (Location.ofPath base path) = inside at resolves ⊢
            cases found <;> cases inside <;> exact resolves

/-- The roots and the scope of a selected directory are those of what it is resolved to. -/
theorem roots_of_resolveDirectory (located : host.locate project = .ok base) {selection : Selection}
    (hkind : selection.kind = .oneDirectory) {found : Option Location}
    (h : resolveDirectory host project selection.directory = .ok found)
    (filter : Except ProjectError FileFilter) :
    sourceRoots host project filter selection = .ok found.toList ∧
      searchScope host project filter selection = .ok (scopeOf base found.toList false) := by
  have hroots : sourceRoots host project filter selection = .ok found.toList := by
    rw [sourceRoots, hkind, h]
    rfl
  refine ⟨hroots, ?_⟩
  rw [searchScope, located, hroots, hkind]
  rfl

theorem fault_of_resolveDirectory (located : host.locate project = .ok base) {selection : Selection}
    (hkind : selection.kind = .oneDirectory) {fault : PathFault}
    (h : resolveDirectory host project selection.directory = .error fault)
    (filter : Except ProjectError FileFilter) :
    sourceRoots host project filter selection = .error (.path fault) ∧
      searchScope host project filter selection = .error (.path fault) := by
  have hroots : sourceRoots host project filter selection = .error (.path fault) := by
    rw [sourceRoots, hkind, h]
    rfl
  refine ⟨hroots, ?_⟩
  rw [searchScope, located, hroots]
  rfl

end

end Project

namespace Runner

open Project
open Settings (Session)

variable {r : Runner} {s : Session} {request : RunRequest}

theorem run_of_scope_empty {scope : SearchScope}
    (h : searchScope s.host r.project (.ok r.filter) request.selection = .ok scope)
    (hempty : scope.isEmpty = true) (engine : Layout.Engine) (token : Token) :
    r.run s engine request token =
      (.nothing request.sourceLabel ("No source roots for " ++ request.selection.label), s) := by
  have hgather : r.gather s.host request (.start token) =
      (.error (.noActiveScope request.selection.label), .start token) := by
    rw [gather, h]
    exact if_pos hempty
  rw [run, prepare, hgather]
  rfl

theorem run_of_scope_error {e : ProjectError}
    (h : searchScope s.host r.project (.ok r.filter) request.selection = .error e)
    (engine : Layout.Engine) (token : Token) :
    r.run s engine request token =
      (.failed request.sourceLabel ("Call graph run failed: " ++ e.message), s) := by
  have hgather : r.gather s.host request (.start token) = (.error (.project e), .start token) := by
    rw [gather, h]
  rw [run, prepare, hgather]
  rfl

/-- A run on a directory that selects nothing has nothing to look at, and a run on a directory that
cannot be looked up fails.  The text of the directory cannot be looked up exactly if it names the
home of an unknown account, holds a null character or leads to a name or a path that is too long:
then neither roots nor scope are found.  For every other text they are found, and the roots are what
the text selects: none, if it is blank, leads out of the project or leads to nothing. -/
theorem run_on_directory (r : Runner) (s : Session) (request : RunRequest) {base : Location}
    (wellFormed : s.host.WellFormed) (located : s.host.locate r.project = .ok base)
    (hkind : request.selection.kind = .oneDirectory) :
    (∃ fault, Untraceable s.host base request.selection.directoryText fault ∧
      (∀ filter, sourceRoots s.host r.project filter request.selection = .error (.path fault) ∧
        searchScope s.host r.project filter request.selection = .error (.path fault)) ∧
      ∀ engine token, r.run s engine request token =
        (.failed request.sourceLabel ("Call graph run failed: " ++ fault.message), s)) ∨
    (¬ ∃ fault, Untraceable s.host base request.selection.directoryText fault) ∧
      ∃ roots, (∀ filter, sourceRoots s.host r.project filter request.selection = .ok roots ∧
          searchScope s.host r.project filter request.selection = .ok (scopeOf base roots false)) ∧
        (∀ l, roots = [l] ↔ Selects s.host base request.selection.directoryText l) ∧
        ((¬ ∃ l, Selects s.host base request.selection.directoryText l) → roots = [] ∧
          ∀ engine token, r.run s engine request token = (.nothing request.sourceLabel
            ("No source roots for " ++ request.selection.label), s)) := by
  have resolves := resolveDirectory_resolves wellFormed located request.selection.directory
  cases hresolve : resolveDirectory s.host r.project request.selection.directory with
  | error fault =>
      rw [hresolve] at resolves
      have hfault := fault_of_resolveDirectory located hkind hresolve
      exact .inl ⟨fault, resolves, hfault, run_of_scope_error (hfault _).2⟩
  | ok found =>
      rw [hresolve] at resolves
      obtain ⟨traceable, hfound⟩ := resolves
      have hroots := roots_of_resolveDirectory located hkind hresolve
      refine .inr ⟨traceable, found.toList, hroots, fun l => ?_, fun hnothing => ?_⟩
      · exact Option.toList_eq_singleton_iff.trans (hfound l)
      · have hnone : found = none :=
          Option.eq_none_iff_forall_ne_some.2 fun l hl => hnothing ⟨l, (hfound l).1 hl⟩
        subst hnone
        exact ⟨rfl, run_of_scope_empty (hroots _).2 rfl⟩

def siblingRunner : Runner := ⟨"/p", .default "/p", siblingFilter, none, .given⟩

def siblingSession : Session := ⟨siblingHost, none⟩

def directoryRequest (directory : String) : RunRequest :=
  ⟨⟨.oneDirectory, none, some directory⟩, none, .both⟩

/-- The text goes through the home to the top, which exists and is not in the project. -/
theorem run_on_directory_outside :
    siblingHost.WellFormed ∧ siblingHost.locate "/p" = .ok ["p"] ∧
    (∀ l, ¬ Selects siblingHost ["p"] "~/p/api/../.." l) ∧
    ∀ engine token,
      siblingRunner.run siblingSession engine (directoryRequest " ~/p/api/../.. ") token =
        (.nothing "Source: Directory [ ~/p/api/../.. ]"
          "No source roots for Directory [ ~/p/api/../.. ]", siblingSession) := by
  have hlocated : siblingHost.locate "/p" = .ok ["p"] := eq_ok_of_toOption (by decide +kernel)
  have htext : (directoryRequest " ~/p/api/../.. ").selection.directoryText = "~/p/api/../.." := by
    decide +kernel
  have hroots : sourceRoots siblingHost "/p" (.ok siblingFilter)
      (directoryRequest " ~/p/api/../.. ").selection = .ok [] :=
    eq_ok_of_toOption (by decide +kernel)
  rcases run_on_directory siblingRunner siblingSession (directoryRequest " ~/p/api/../.. ")
    siblingHost_wellFormed hlocated rfl with
    ⟨fault, -, hfault, -⟩ | ⟨-, roots, hfound, hselects, hempty⟩
  · cases hroots.symm.trans (hfault (.ok siblingFilter)).1
  · obtain rfl := Except.ok.inj (hroots.symm.trans (hfound (.ok siblingFilter)).1)
    have hnothing : ∀ l, ¬ Selects siblingHost ["p"]
        (directoryRequest " ~/p/api/../.. ").selection.directoryText l :=
      fun l selects => List.cons_ne_nil _ _ ((hselects l).2 selects).symm
    refine ⟨siblingHost_wellFormed, hlocated, htext ▸ hnothing, fun engine token => ?_⟩
    rw [(hempty fun ⟨l, selects⟩ => hnothing l selects).2]
    rfl

/-- The home of an unknown account leaves no roots, not even an empty list of them, and the run
fails. -/
theorem unknown_home_fails :
    sourceRoots siblingHost "/p" (.ok siblingFilter) (directoryRequest "~nosuchuser").selection =
      .error (.path .unknownHome) ∧
    searchScope siblingHost "/p" (.ok siblingFilter) (directoryRequest "~nosuchuser").selection =
      .error (.path .unknownHome) ∧
    (siblingRunner.run siblingSession .row (directoryRequest "~nosuchuser") .never).1.status =
      .failed := by
  have hlocated : siblingHost.locate "/p" = .ok ["p"] := eq_ok_of_toOption (by decide +kernel)
  have hkind : (directoryRequest "~nosuchuser").selection.kind = .oneDirectory := rfl
  have hresolve : resolveDirectory siblingHost "/p" (some "~nosuchuser") = .error .unknownHome := by
    decide +kernel
  have hfault := fault_of_resolveDirectory hlocated hkind hresolve
  have hscope : searchScope siblingSession.host siblingRunner.project (.ok siblingRunner.filter)
      (directoryRequest "~nosuchuser").selection = .error (.path .unknownHome) := (hfault _).2
  refine ⟨(hfault _).1, hscope, ?_⟩
  rw [run_of_scope_error hscope]
  rfl

end Runner

end CallAtlas
