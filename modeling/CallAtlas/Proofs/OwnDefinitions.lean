import CallAtlas.Proofs.Resolution

/-!
# Own definitions win

A name that a file defines as a function or method is resolved to that definition wherever it is
mentioned in the file.  Other definitions of the name are candidates too, in other files and earlier
in the same one; but the former are left out if there is more than one candidate, and the latter
have the same ID.
-/

namespace CallAtlas

/-- A symbol is the last definition of a qualified name in a file. -/
def SourceFile.LastOf (file : SourceFile) (q : String) (s : Symbol) : Prop :=
  ∃ before after, file.symbols = before ++ s :: after ∧ s.qualifiedName = q ∧
    ∀ s' ∈ after, s'.qualifiedName ≠ q

theorem SourceFile.LastOf.mem {file : SourceFile} {q : String} {s : Symbol}
    (last : file.LastOf q s) : s ∈ file.symbols := by
  obtain ⟨before, after, hsymbols, -⟩ := last
  rw [hsymbols]
  exact List.mem_append_right _ List.mem_cons_self

/-- Files with different paths do not share their symbols. -/
theorem symbolsAt_of_mem {files : List SourceFile} (distinct : (files.map (·.path)).Nodup)
    {file : SourceFile} (h : file ∈ files) : symbolsAt files file.path = file.symbols := by
  have honly : (files.filter fun other => other.path = file.path) = [file] := by
    induction files with
    | nil => cases h
    | cons first files ih =>
        rw [List.map_cons, List.nodup_cons] at distinct
        rcases List.mem_cons.1 h with rfl | h
        · rw [List.filter_cons, if_pos (decide_eq_true rfl), List.filter_eq_nil_iff.2]
          intro other hother hpath
          exact distinct.1 (of_decide_eq_true hpath ▸ List.mem_map_of_mem hother)
        · have hne : first.path ≠ file.path := fun hpath =>
            distinct.1 (hpath ▸ List.mem_map_of_mem h)
          rw [List.filter_cons, if_neg (mt of_decide_eq_true hne), ih distinct.2 h]
  rw [symbolsAt, honly, List.flatMap_singleton]

namespace SymbolTable

/-- There are candidates, and all of them are one ID. -/
def Only (id : String) (ids : List String) : Prop := id ∈ ids ∧ ∀ i ∈ ids, i = id

namespace Only

variable {t : SymbolTable} {id : String} {ids : List String}

theorem prefer (only : Only id ids) (file : Option String) : Only id (t.prefer file ids) := by
  have hall : ∀ i ∈ t.prefer file ids, i = id := fun i hi => only.2 i (mem_of_mem_prefer hi)
  refine ⟨?_, hall⟩
  cases file with
  | none => exact only.1
  | some path =>
      unfold SymbolTable.prefer preferFile at hall ⊢
      dsimp only at hall ⊢
      split
      · exact only.1
      · rename_i hown
        rw [if_neg hown] at hall
        obtain ⟨i, hi⟩ := List.exists_mem_of_ne_nil _ (mt List.isEmpty_iff.2 hown)
        exact hall i hi ▸ hi

theorem callables (only : Only id ids) (h : t.callable? id = some id) : t.callables ids = [id] := by
  refine List.perm_singleton.1 ((List.perm_ext_iff_of_nodup (t.nodup_callables ids)
    (List.nodup_singleton id)).2 fun m => ?_)
  rw [mem_callables, List.mem_singleton]
  constructor
  · rintro ⟨i, hi, hm⟩
    rw [only.2 i hi, h] at hm
    exact (Option.some.inj hm).symm
  · rintro rfl
    exact ⟨m, only.1, h⟩

end Only

theorem firstNonempty_of_mem {ids : List String} {id : String} (h : id ∈ ids)
    (lists : List (List String)) : firstNonempty (ids :: lists) = ids := by
  rw [firstNonempty, if_neg fun hempty => List.ne_nil_of_mem h (List.isEmpty_iff.1 hempty)]

section

variable {files : List SourceFile} {file : SourceFile} {q : String} {s : Symbol}

theorem makeId_mem_withQualifiedName (hfile : file ∈ files) (last : file.LastOf q s) :
    makeId file.path q ∈ (ofFiles files).withQualifiedName q := by
  have hs := last.mem
  obtain ⟨-, -, -, rfl, -⟩ := last
  exact mem_withQualifiedName.2
    ⟨entryOf (file, s), mem_entries_ofFiles.2 ⟨file, hfile, s, hs, rfl⟩, rfl, rfl⟩

/-- The last definition of a name in a file is the last one of its ID. -/
theorem entry?_of_lastOf (distinct : (files.map (·.path)).Nodup) (named : WellNamed files)
    (hfile : file ∈ files) (last : file.LastOf q s) :
    entry? (ofFiles files) (makeId file.path q) = some ⟨makeId file.path q, s, file.path⟩ := by
  have hs := last.mem
  obtain ⟨before, after, hsymbols, rfl, hafter⟩ := last
  have hfind : (file.symbols.reverse.find? fun s' => s'.qualifiedName = s.qualifiedName) =
      some s := by
    refine List.find?_eq_some_iff_append.2 ⟨decide_eq_true rfl, after.reverse, before.reverse,
      by simp [hsymbols], fun s' hs' => ?_⟩
    rw [Bool.not_eq_true']
    exact decide_eq_false (hafter s' (List.mem_reverse.1 hs'))
  rw [entry?_makeId named file.path (named file hfile s hs).colon_notMem,
    symbolsAt_of_mem distinct hfile, hfind]
  rfl

theorem callable?_of_lastOf (distinct : (files.map (·.path)).Nodup) (named : WellNamed files)
    (hfile : file ∈ files) (last : file.LastOf q s) (callable : s.isCallable = true) :
    (ofFiles files).callable? (makeId file.path q) = some (makeId file.path q) :=
  callable?_eq_some_iff.2 (.inl ⟨_, entry?_of_lastOf distinct named hfile last, callable, rfl⟩)

/-- Of the definitions of a name, those in the file that is preferred have one ID. -/
theorem only_own (distinct : (files.map (·.path)).Nodup) (named : WellNamed files)
    (hfile : file ∈ files) (last : file.LastOf q s) :
    Only (makeId file.path q)
      ((ofFiles files).prefer (some file.path) ((ofFiles files).withQualifiedName q)) := by
  have hown : makeId file.path q ∈ ((ofFiles files).withQualifiedName q).filter fun id =>
      (SymbolTable.entry? (ofFiles files) id).any fun e => e.path = file.path := by
    refine List.mem_filter.2 ⟨makeId_mem_withQualifiedName hfile last, ?_⟩
    rw [entry?_of_lastOf distinct named hfile last]
    simp
  unfold SymbolTable.prefer preferFile
  dsimp only
  rw [if_neg fun hempty => List.ne_nil_of_mem hown (List.isEmpty_iff.1 hempty)]
  refine ⟨hown, fun id hid => ?_⟩
  obtain ⟨hid, hpath⟩ := List.mem_filter.1 hid
  obtain ⟨e, he, rfl, rfl⟩ := mem_withQualifiedName.1 hid
  obtain ⟨last', hlast'⟩ := exists_entry he
  rw [hlast', Option.any_some, decide_eq_true_eq, path_of_entry? named he hlast'] at hpath
  obtain ⟨other, -, s', -, rfl⟩ := mem_entries_ofFiles.1 he
  exact congrArg (makeId · s'.qualifiedName) hpath

/-- The mention of a name that is no member of the enclosing class. -/
theorem candidates_of_exact {t : SymbolTable} {q id : String} {cls : Option String}
    (file : Option String) (hmember : memberName? (Text.split '.' q) cls = none)
    (h : id ∈ t.withQualifiedName q) : t.candidates q file cls = t.withQualifiedName q := by
  unfold candidates
  dsimp only
  rw [memberCandidates_eq, hmember]
  exact firstNonempty_of_mem h _

theorem candidates_of_member {t : SymbolTable} {receiver name c id : String} {file : Option String}
    (hself : receiver ∈ selfReceivers) (hname : '.' ∉ name.toList) (hc : c ≠ "")
    (h : id ∈ t.prefer file (t.withQualifiedName (c ++ "." ++ name))) :
    t.candidates (receiver ++ "." ++ name) file (some c) =
      t.prefer file (t.withQualifiedName (c ++ "." ++ name)) := by
  have hreceiver : '.' ∉ receiver.toList := by
    revert receiver
    decide
  have hparts : Text.split '.' (receiver ++ "." ++ name) = [receiver, name] := by
    rw [split_append, split_of_notMem hreceiver, split_of_notMem hname]
    rfl
  have hmember : memberName? [receiver, name] (some c) = some (c ++ "." ++ name) :=
    memberName?_eq_some_iff.2 ⟨receiver, hself, name, c, rfl, rfl, hc, rfl⟩
  unfold candidates
  dsimp only
  rw [hparts, memberCandidates_eq, hmember]
  exact firstNonempty_of_mem h _

/-- A class that the qualified name of a definition begins with has a name. -/
theorem class_ne_empty {c name : String} (simple : IsSimpleName s.name) (hname : '.' ∉ name.toList)
    (h : s.qualifiedName = c ++ "." ++ name) : c ≠ "" := by
  have hlast : s.name = name := by
    rw [← Symbol.lastComponent_qualifiedName simple, h, lastComponent_append c hname]
  rcases s.qualifiedName_cases with hq | ⟨parent, -, hparent, hq⟩
  · refine absurd ?_ simple.1
    rw [← hq, h]
    simp
  · rw [hq, hlast] at h
    exact (String.append_left_inj "." |>.1 (String.append_left_inj name |>.1 h)) ▸ hparent

/-- A name whose last definition in a file is a function or method is resolved to it in that file,
whatever else there is, unless `self` or `cls` with one more component stands for a member of an
enclosing class; and a member that is defined in its class is what it stands for. -/
theorem resolve_own (distinct : (files.map (·.path)).Nodup) (named : WellNamed files)
    (hfile : file ∈ files) (last : file.LastOf q s) (callable : s.isCallable = true) :
    (∀ cls : Option String,
      (∀ receiver ∈ ["self", "cls"], ∀ name, '.' ∉ name.toList → q = receiver ++ "." ++ name →
        cls = none ∨ cls = some "") →
      (ofFiles files).resolve q (some file.path) cls = [file.path ++ "::" ++ q]) ∧
    ∀ c name, '.' ∉ name.toList → q = c ++ "." ++ name → ∀ receiver ∈ ["self", "cls"],
      (ofFiles files).resolve (receiver ++ "." ++ name) (some file.path) (some c) =
        [file.path ++ "::" ++ (c ++ "." ++ name)] := by
  have hcallable := callable?_of_lastOf distinct named hfile last callable
  have hmem := makeId_mem_withQualifiedName hfile last
  have honly := only_own distinct named hfile last
  constructor
  · intro cls hcls
    have hmember : memberName? (Text.split '.' q) cls = none := by
      rw [Option.eq_none_iff_forall_ne_some]
      intro q' hq'
      obtain ⟨receiver, hself, name, c, hparts, rfl, hc, -⟩ := memberName?_eq_some_iff.1 hq'
      have hpart : name ∈ Text.split '.' q := by
        rw [hparts]
        simp
      have hname := notMem_of_mem_split hpart
      rcases hcls receiver hself name hname (split_eq_pair hparts) with hnone | hempty
      · cases hnone
      · exact hc (Option.some.inj hempty)
    rw [resolve_eq_prefer, candidates_of_exact (some file.path) hmember hmem]
    exact honly.callables hcallable
  · rintro c name hname rfl receiver hself
    have simple := (named file hfile s last.mem).simple
    obtain ⟨-, -, -, hq, -⟩ := last
    have hc := class_ne_empty simple hname hq
    rw [resolve_eq_prefer, candidates_of_member hself hname hc honly.1]
    exact (honly.prefer (some file.path)).callables hcallable

/-- The method `C.n` stands in two files; the first of them defines it twice. -/
def repeated : List SourceFile :=
  [⟨"a.py", [⟨"C", .classType, 1, 5, none, none⟩, ⟨"n", .classType, 2, 3, none, some "C"⟩,
      ⟨"n", .method, 4, 5, none, some "C"⟩, ⟨"D", .classType, 6, 8, none, none⟩,
      ⟨"n", .method, 7, 8, none, some "D"⟩], []⟩,
    ⟨"b.py", [⟨"C", .classType, 1, 3, none, none⟩, ⟨"n", .method, 2, 3, none, some "C"⟩], []⟩]

/-- Of three candidates, only the method of the first file is meant there. -/
theorem resolve_own_repeated :
    (ofFiles repeated).withQualifiedName "C.n" = ["a.py::C.n", "a.py::C.n", "b.py::C.n"] ∧
    (ofFiles repeated).resolve "C.n" (some "a.py") (some "D") = ["a.py::C.n"] ∧
    (ofFiles repeated).resolve "self.n" (some "a.py") (some "C") = ["a.py::C.n"] := by
  have distinct : (repeated.map (·.path)).Nodup := by decide +kernel
  have named : WellNamed repeated := by decide +kernel
  have last : (repeated.head (by decide)).LastOf "C.n" ⟨"n", .method, 4, 5, none, some "C"⟩ :=
    ⟨[_, _], [_, _], rfl, by decide +kernel, by decide +kernel⟩
  obtain ⟨hexact, hmember⟩ := resolve_own distinct named (List.head_mem _) last rfl
  refine ⟨by decide +kernel, hexact (some "D") ?_,
    hmember "C" "n" (by decide) rfl "self" (by decide)⟩
  intro receiver hself name _ hq
  -- the names already differ in the first character
  have hfirst : some 'C' = (receiver ++ "." ++ name).toList.head? := hq ▸ rfl
  simp only [List.mem_cons, List.not_mem_nil, or_false] at hself
  rcases hself with rfl | rfl <;> simp at hfirst

end

end SymbolTable

end CallAtlas
