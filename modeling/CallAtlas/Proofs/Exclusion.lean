import CallAtlas.Project.Filter
import CallAtlas.Proofs.Computation
import CallAtlas.Proofs.Paths
import Mathlib.Data.List.DropRight

/-!
# Excluded directories

A pattern without wildcards that is the path of a directory excludes all that lies below the
directory.  With a slash behind it, this is so only for the name of a directory: such a pattern is
compared with single components, so with several components of its own it excludes nothing.
-/

namespace CallAtlas.Project

namespace Wildcard

def isSpecial (c : Char) : Bool := c == '*' || c == '?' || c == '['

theorem parse_of_plain {s : List Char} (plain : ∀ c ∈ s, isSpecial c = false) :
    parse s = s.map .exactly := by
  induction s with
  | nil => rw [parse, List.map_nil]
  | cons c rest ih =>
      obtain ⟨hc, hrest⟩ := List.forall_mem_cons.1 plain
      simp only [isSpecial, Bool.or_eq_false_iff, beq_eq_false_iff_ne] at hc
      rw [parse, if_neg hc.2, ih hrest, List.map_cons]
      · exact fun h => hc.1.1 h
      · exact fun h => hc.1.2 h

theorem fits_exactly (s text : List Char) : fits (s.map .exactly) text = true ↔ text = s := by
  induction s generalizing text with
  | nil => simp [fits]
  | cons c rest ih =>
      cases text with
      | nil => simp [fits]
      | cons d text =>
          simp only [List.map_cons, fits, holds, Bool.and_eq_true, beq_iff_eq, ih, List.cons.injEq]
          rw [eq_comm]

/-- A pattern without wildcards stands for itself only. -/
theorem matchesText_of_plain {pattern text : String}
    (plain : ∀ c ∈ pattern.toList, isSpecial c = false) :
    matchesText pattern text = true ↔ text = pattern := by
  rw [matchesText, parse_of_plain plain, fits_exactly, String.toList_inj]

end Wildcard

/-- A relative path of components that are not empty, without wildcards. -/
structure IsPlainPath (d : String) : Prop where
  parts : ∀ part ∈ Text.split '/' d, part ≠ ""
  plain : ∀ c ∈ d.toList, Wildcard.isSpecial c = false

instance (d : String) : Decidable (IsPlainPath d) :=
  decidable_of_iff ((∀ part ∈ Text.split '/' d, part ≠ "") ∧
      d.toList.all (fun c => !Wildcard.isSpecial c) = true)
    ⟨fun h => ⟨h.1, by simpa using h.2⟩, fun h => ⟨h.parts, by simpa using h.plain⟩⟩

def Below (d path : String) : Prop := Text.startsWith path (d ++ "/") = true

instance (d path : String) : Decidable (Below d path) := inferInstanceAs (Decidable (_ = true))

theorem below_iff {d path : String} :
    Below d path ↔ ∃ rest, path.toList = d.toList ++ '/' :: rest := by
  rw [Below, Text.startsWith, List.isPrefixOf_iff_prefix, String.toList_append]
  constructor
  · rintro ⟨rest, hrest⟩
    exact ⟨rest, by simpa using hrest.symm⟩
  · rintro ⟨rest, hrest⟩
    exact ⟨rest, by simp [hrest]⟩

theorem endsWith_slash_iff {s : String} :
    Text.endsWith s "/" = true ↔ ∃ start, s.toList = start ++ ['/'] := by
  rw [Text.endsWith, List.isSuffixOf_iff_suffix]
  exact exists_congr fun _ => eq_comm

theorem IsPlainPath.last_ne_slash {d : String} (h : IsPlainPath d) (start : List Char) :
    d.toList ≠ start ++ ['/'] := by
  intro hd
  refine h.parts "" (List.mem_map.2 ⟨[], ?_, rfl⟩) rfl
  rw [hd, Text.splitChars_append]
  exact List.mem_append_right _ List.mem_cons_self

namespace FileFilter

theorem dropSlashes_eq (s : String) :
    dropSlashes s = String.ofList (s.toList.rdropWhile (· == '/')) := rfl

section

variable {d path : String}

/-- The slash behind the path of a directory is all that is dropped. -/
theorem dropSlashes_append (h : IsPlainPath d) : dropSlashes (d ++ "/") = d := by
  have hlast : d.toList.rdropWhile (· == '/') = d.toList := by
    refine List.rdropWhile_eq_self_iff.2 fun hne hslash => ?_
    refine h.last_ne_slash d.toList.dropLast ?_
    rw [← beq_iff_eq.1 hslash, List.dropLast_append_getLast]
  rw [dropSlashes_eq, String.toList_append, show "/".toList = ['/'] from rfl,
    List.rdropWhile_concat_pos _ _ _ (by decide), hlast, String.ofList_toList]

theorem mem_split_of_below (hname : '/' ∉ d.toList) (hbelow : Below d path) :
    d ∈ Text.split '/' path := by
  obtain ⟨rest, hrest⟩ := below_iff.1 hbelow
  rw [Text.split, hrest, Text.splitChars_append, Text.splitChars_of_notMem hname]
  simp

theorem excludes_of_below (h : IsPlainPath d) (hbelow : Below d path) : excludes d path = true := by
  have hends : ¬ Text.endsWith d "/" = true := by
    rw [endsWith_slash_iff]
    exact fun ⟨start, hd⟩ => h.last_ne_slash start hd
  unfold excludes
  dsimp only
  rw [if_neg hends]
  by_cases hslash : '/' ∈ d.toList
  · have hstarts : Text.startsWith path (d ++ "/") = true := hbelow
    rw [if_pos (List.contains_iff_mem.2 hslash), hstarts]
    rfl
  · rw [if_neg (mt List.contains_iff_mem.1 hslash), Bool.or_eq_true, List.any_eq_true]
    exact .inl ⟨d, mem_split_of_below hslash hbelow, (Wildcard.matchesText_of_plain h.plain).2 rfl⟩

/-- With a slash behind it, the path of a directory is compared with every component. -/
theorem excludes_slash_iff (h : IsPlainPath d) :
    excludes (d ++ "/") path = true ↔ d ∈ Text.split '/' path := by
  have hends : Text.endsWith (d ++ "/") "/" = true :=
    endsWith_slash_iff.2 ⟨d.toList, String.toList_append⟩
  unfold excludes
  dsimp only
  rw [if_pos hends, dropSlashes_append h, List.any_eq_true]
  simp only [Wildcard.matchesText_of_plain h.plain, exists_eq_right]

theorem isExcluded_of_mem {f : FileFilter} {pattern : String} (hpattern : pattern ∈ f.patterns)
    (h : excludes pattern path = true) : f.isExcluded path = true :=
  List.any_eq_true.2 ⟨pattern, hpattern, h⟩

/-- No file that is listed is excluded. -/
theorem isExcluded_of_mem_files {f : FileFilter} {host : Host} {roots : Option (List String)}
    {kept : List String} (h : f.files host roots = .ok kept) (hpath : path ∈ kept) :
    f.isExcluded path = false := by
  obtain ⟨base, -, h⟩ := bind_ok h
  obtain ⟨locations, -, h⟩ := bind_ok h
  obtain rfl := Except.ok.inj h
  rw [filesBelow, Text.mem_sortedTexts, List.mem_flatMap] at hpath
  obtain ⟨root, -, hroot⟩ := hpath
  obtain ⟨c, hc, rfl⟩ := List.mem_map.1 hroot
  have hkeeps := (List.mem_filter.1 hc).2
  simp only [keeps, Bool.and_eq_true, Bool.not_eq_true'] at hkeeps
  exact hkeeps.1.1.1.2

/-- The path of a directory as a pattern excludes all that lies below the directory, so that nothing
there is listed.  So does the name of a directory with a slash behind it; but a path of several
components with a slash behind it excludes nothing at all. -/
theorem directory_excludes_below (plain : IsPlainPath d) :
    (∀ f : FileFilter, d ∈ f.patterns ∨ d ++ "/" ∈ f.patterns ∧ '/' ∉ d.toList →
      (∀ path, Below d path → f.isExcluded path = true) ∧
      ∀ host roots kept, f.files host roots = .ok kept → ∀ path ∈ kept, ¬ Below d path) ∧
    ('/' ∈ d.toList → ∀ path, excludes (d ++ "/") path = false) := by
  constructor
  · intro f hpatterns
    have hexcluded : ∀ path, Below d path → f.isExcluded path = true := by
      intro path hbelow
      rcases hpatterns with hpattern | ⟨hpattern, hname⟩
      · exact isExcluded_of_mem hpattern (excludes_of_below plain hbelow)
      · exact isExcluded_of_mem hpattern
          ((excludes_slash_iff plain).2 (mem_split_of_below hname hbelow))
    refine ⟨hexcluded, fun host roots kept hkept path hpath hbelow => ?_⟩
    have hlisted := isExcluded_of_mem_files hkept hpath
    rw [hexcluded path hbelow] at hlisted
    cases hlisted
  · intro hslash path
    refine Bool.eq_false_iff.2 fun hexcludes => ?_
    exact notMem_of_mem_split ((excludes_slash_iff plain).1 hexcludes) hslash

end

/-- A filter that excludes the given directories besides what every filter excludes. -/
def excluding (directories : List String) : FileFilter :=
  ⟨"/p", 1024, 64, 100, [sourceExtension], defaultExcludes ++ directories⟩

/-- A directory in a directory is excluded with a file deep below it, but not one whose name goes on
differently. -/
theorem directory_excludes_below_nested :
    IsPlainPath "src/gen" ∧ (excluding ["src/gen"]).isExcluded "src/gen/api/v1.py" = true ∧
      (excluding ["src/gen"]).isExcluded "src/general.py" = false := by
  have plain : IsPlainPath "src/gen" := by decide +kernel
  have hpattern : "src/gen" ∈ (excluding ["src/gen"]).patterns := by decide
  refine ⟨plain, ?_, by decide +kernel⟩
  refine (((directory_excludes_below plain).1 _ (.inl hpattern)).1 "src/gen/api/v1.py" ?_)
  decide +kernel

def nestedHost : Host where
  tree := ⟨[(["p"], .directory), (["p", "src"], .directory), (["p", "src", "gen"], .directory),
    (["p", "src", "gen", "a.py"], .file [])]⟩
  current := []
  environment := []
  ownHome := "/"
  homes := []

/-- A slash behind the path of that directory, and its file is listed after all. -/
theorem directory_slash_lists_below :
    (excluding ["src/gen/"]).files nestedHost none = .ok ["src/gen/a.py"] ∧
    ¬ ∀ (d : String) (f : FileFilter), IsPlainPath d → d ∈ f.patterns ∨ d ++ "/" ∈ f.patterns →
      (∀ path, Below d path → f.isExcluded path = true) ∧
      ∀ host roots kept, f.files host roots = .ok kept → ∀ path ∈ kept, ¬ Below d path := by
  have hfiles : (excluding ["src/gen/"]).files nestedHost none = .ok ["src/gen/a.py"] :=
    eq_ok_of_toOption (by decide +kernel)
  refine ⟨hfiles, fun claimed => ?_⟩
  have hpattern : "src/gen" ++ "/" ∈ (excluding ["src/gen/"]).patterns := by decide
  obtain ⟨-, hlisted⟩ := claimed "src/gen" _ (by decide +kernel) (.inr hpattern)
  exact hlisted nestedHost none _ hfiles "src/gen/a.py" List.mem_cons_self (by decide +kernel)

end FileFilter

end CallAtlas.Project
