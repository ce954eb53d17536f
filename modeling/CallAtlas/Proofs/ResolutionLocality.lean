import CallAtlas.Proofs.Resolution

/-!
# Resolution is local to a name

What a name is resolved to depends on the definitions with its last component as simple name, and on
constructors.  All other definitions of a project, and the order of its files, can change without
effect.  The argument only compares which candidates there are: how often and in which order they
are listed matters nowhere, for the result has no repetitions, and the preference for a file does
nothing to a single candidate.
-/

namespace CallAtlas

/-- The symbols that matter for resolving names with the given last component. -/
def concerned (name : String) (symbols : List Symbol) : List Symbol :=
  symbols.filter fun s => s.name = name ∨ s.name = "__init__"

/-- Lists with the same IDs, whatever their order. -/
def SameIds (ids ids' : List String) : Prop := ∀ id, id ∈ ids ↔ id ∈ ids'

namespace SameIds

variable {ids ids' : List String}

theorem refl (ids : List String) : SameIds ids ids := fun _ => Iff.rfl

theorem isEmpty_eq (same : SameIds ids ids') : ids.isEmpty = ids'.isEmpty := by
  rw [Bool.eq_iff_iff, List.isEmpty_iff, List.isEmpty_iff, List.eq_nil_iff_forall_not_mem,
    List.eq_nil_iff_forall_not_mem]
  exact forall_congr' fun id => not_congr (same id)

theorem firstNonempty {lists lists' : List (List String)}
    (same : List.Forall₂ SameIds lists lists') :
    SameIds (SymbolTable.firstNonempty lists) (SymbolTable.firstNonempty lists') := by
  induction same with
  | nil => exact refl []
  | cons first _ ih =>
      rw [SymbolTable.firstNonempty, SymbolTable.firstNonempty, first.isEmpty_eq]
      split
      · exact ih
      · exact first

end SameIds

namespace SymbolTable

/-- Two tables have the same definitions with a simple name and the same constructors of the classes
among them. -/
structure AgreeOn (name : String) (t t' : SymbolTable) : Prop where
  simple : t.SimplyNamed
  simple' : t'.SimplyNamed
  mem_iff : ∀ e : TableEntry, e.symbol.name = name → (e ∈ t.entries ↔ e ∈ t'.entries)
  entry?_eq : ∀ id ∈ t.withName name, t.entry? id = t'.entry? id
  entry?_constructor : ∀ id ∈ t.withName name,
    t.entry? (constructorId id) = t'.entry? (constructorId id)

namespace AgreeOn

variable {name : String} {t t' : SymbolTable} {ids ids' : List String}

theorem withName (agree : AgreeOn name t t') : SameIds (t.withName name) (t'.withName name) := by
  intro id
  rw [mem_withName, mem_withName]
  constructor
  · rintro ⟨e, he, hname, hid⟩
    exact ⟨e, (agree.mem_iff e hname).1 he, hname, hid⟩
  · rintro ⟨e, he, hname, hid⟩
    exact ⟨e, (agree.mem_iff e hname).2 he, hname, hid⟩

theorem withQualifiedName (agree : AgreeOn name t t') {q : String} (hq : lastComponent q = name) :
    SameIds (t.withQualifiedName q) (t'.withQualifiedName q) := by
  intro id
  rw [mem_withQualifiedName, mem_withQualifiedName]
  constructor
  · rintro ⟨e, he, rfl, hid⟩
    have hname := (Symbol.lastComponent_qualifiedName (agree.simple e he)).symm.trans hq
    exact ⟨e, (agree.mem_iff e hname).1 he, rfl, hid⟩
  · rintro ⟨e, he, rfl, hid⟩
    have hname := (Symbol.lastComponent_qualifiedName (agree.simple' e he)).symm.trans hq
    exact ⟨e, (agree.mem_iff e hname).2 he, rfl, hid⟩

theorem prefer (agree : AgreeOn name t t') (hids : ∀ id ∈ ids, id ∈ t.withName name)
    (same : SameIds ids ids') (file : Option String) :
    SameIds (t.prefer file ids) (t'.prefer file ids') := by
  cases file with
  | none => exact same
  | some path =>
      have hown : SameIds (ids.filter fun id => (t.entry? id).any fun e => e.path = path)
          (ids'.filter fun id => (t'.entry? id).any fun e => e.path = path) := by
        intro id
        rw [List.mem_filter, List.mem_filter, ← same id]
        exact and_congr_right fun hid => by rw [agree.entry?_eq id (hids id hid)]
      unfold SymbolTable.prefer preferFile
      dsimp only
      rw [hown.isEmpty_eq]
      split
      · exact same
      · exact hown

theorem callable?_eq (agree : AgreeOn name t t') {id : String} (hid : id ∈ t.withName name) :
    t.callable? id = t'.callable? id := by
  unfold callable?
  dsimp only
  rw [agree.entry?_eq id hid, ← constructorId, agree.entry?_constructor id hid]

theorem callables (agree : AgreeOn name t t') (hids : ∀ id ∈ ids, id ∈ t.withName name)
    (same : SameIds ids ids') : (t.callables ids).Perm (t'.callables ids') := by
  refine (List.perm_ext_iff_of_nodup (t.nodup_callables ids) (t'.nodup_callables ids')).2 ?_
  intro m
  rw [mem_callables, mem_callables]
  constructor
  · rintro ⟨id, hid, hm⟩
    exact ⟨id, (same id).1 hid, (agree.callable?_eq (hids id hid)).symm.trans hm⟩
  · rintro ⟨id, hid, hm⟩
    have hid := (same id).2 hid
    exact ⟨id, hid, (agree.callable?_eq (hids id hid)).trans hm⟩

end AgreeOn

section

variable {t t' : SymbolTable} {parts : List String}

theorem AgreeOn.memberCandidates (agree : AgreeOn (parts.getLastD "") t t')
    (hparts : ∀ part ∈ parts, '.' ∉ part.toList) (file cls : Option String) :
    SameIds (t.memberCandidates parts file cls) (t'.memberCandidates parts file cls) := by
  rw [memberCandidates_eq, memberCandidates_eq]
  split
  · rename_i q hq
    obtain ⟨receiver, -, name, c, rfl, -, -, rfl⟩ := memberName?_eq_some_iff.1 hq
    have hlast : lastComponent (c ++ "." ++ name) = name :=
      lastComponent_append c (hparts name (by simp))
    refine agree.prefer (fun id hid => ?_) (agree.withQualifiedName hlast) file
    exact hlast ▸ withName_of_withQualifiedName agree.simple hid
  · exact SameIds.refl []

theorem AgreeOn.pairCandidates (agree : AgreeOn (parts.getLastD "") t t')
    (hparts : ∀ part ∈ parts, '.' ∉ part.toList) :
    SameIds (t.pairCandidates parts) (t'.pairCandidates parts) := by
  unfold SymbolTable.pairCandidates
  split
  · rename_i hlength
    exact agree.withQualifiedName (lastComponent_pair hlength hparts)
  · exact SameIds.refl []

theorem AgreeOn.nameCandidates (agree : AgreeOn (parts.getLastD "") t t') :
    SameIds (t.nameCandidates parts) (t'.nameCandidates parts) := by
  have hlength := (agree.callables (fun _ hid => hid) agree.withName).length_eq
  unfold SymbolTable.nameCandidates
  dsimp only
  rw [hlength]
  split
  · exact agree.withName
  · exact SameIds.refl []

theorem AgreeOn.candidates {target : String} (agree : AgreeOn (lastComponent target) t t')
    (file cls : Option String) :
    SameIds (t.candidates target file cls) (t'.candidates target file cls) := by
  have hparts : ∀ part ∈ Text.split '.' target, '.' ∉ part.toList := fun _ => notMem_of_mem_split
  have agree' : AgreeOn ((Text.split '.' target).getLastD "") t t' :=
    (getLastD_split target).symm ▸ agree
  refine SameIds.firstNonempty (.cons ?_ (.cons ?_ (.cons ?_ (.cons ?_ .nil))))
  · exact agree'.memberCandidates hparts file cls
  · exact agree.withQualifiedName rfl
  · exact agree'.pairCandidates hparts
  · exact agree'.nameCandidates

/-- Tables that agree on the last component of a name resolve it alike. -/
theorem AgreeOn.resolve {target : String} (agree : AgreeOn (lastComponent target) t t')
    (file cls : Option String) : (t.resolve target file cls).Perm (t'.resolve target file cls) := by
  have hids : ∀ id ∈ t.candidates target file cls, id ∈ t.withName (lastComponent target) :=
    fun _ hid => withName_of_candidates agree.simple hid
  rw [resolve_eq_prefer, resolve_eq_prefer]
  refine agree.callables (fun id hid => hids id (mem_of_mem_prefer hid)) ?_
  exact agree.prefer hids (agree.candidates file cls) file

end

section

variable {files files' : List SourceFile} {name : String}

theorem mem_entries_iff_symbolsAt {e : TableEntry} :
    e ∈ (ofFiles files).entries ↔
      e.symbol ∈ symbolsAt files e.path ∧ e.id = makeId e.path e.symbol.qualifiedName := by
  rw [mem_entries_ofFiles]
  constructor
  · rintro ⟨file, hfile, s, hs, rfl⟩
    refine ⟨List.mem_flatMap.2 ⟨file, List.mem_filter.2 ⟨hfile, ?_⟩, hs⟩, rfl⟩
    exact decide_eq_true rfl
  · obtain ⟨id, s, path⟩ := e
    rintro ⟨hs, hid⟩
    obtain ⟨file, hfile, hs⟩ := List.mem_flatMap.1 hs
    have hpath := of_decide_eq_true (List.mem_filter.1 hfile).2
    dsimp only at hid hpath
    refine ⟨file, (List.mem_filter.1 hfile).1, s, hs, ?_⟩
    rw [hid, ← hpath]
    rfl

theorem simple_of_mem_symbolsAt (named : WellNamed files) {path : String} {s : Symbol}
    (h : s ∈ symbolsAt files path) : IsSimpleName s.name := by
  obtain ⟨file, hfile, hs⟩ := List.mem_flatMap.1 h
  exact (named file (List.mem_filter.1 hfile).1 s hs).simple

/-- Only the symbols that matter decide what an ID with such a name denotes. -/
theorem entry?_of_concerned (named : WellNamed files) (path : String) {q : String}
    (hq : ':' ∉ q.toList) (hlast : lastComponent q = name ∨ lastComponent q = "__init__") :
    entry? (ofFiles files) (makeId path q) =
      ((concerned name (symbolsAt files path)).reverse.find? fun s => s.qualifiedName = q).map
        fun s => ⟨makeId path q, s, path⟩ := by
  have hfind : (symbolsAt files path).reverse.find? (fun s => s.qualifiedName = q) =
      (concerned name (symbolsAt files path)).reverse.find? fun s => s.qualifiedName = q := by
    rw [concerned, ← List.filter_reverse, List.find?_filter]
    refine List.find?_congr fun s hs => ?_
    have simple := simple_of_mem_symbolsAt named (List.mem_reverse.1 hs)
    rw [decide_eq_decide, decide_eq_true_eq, decide_eq_true_eq]
    refine (and_iff_right_of_imp ?_).symm
    rintro rfl
    rwa [Symbol.lastComponent_qualifiedName simple] at hlast
  rw [entry?_makeId named path hq, hfind]

theorem exists_makeId_of_mem_withName (named : WellNamed files) {id : String}
    (h : id ∈ (ofFiles files).withName name) :
    ∃ path q, id = makeId path q ∧ ':' ∉ q.toList ∧ lastComponent q = name := by
  obtain ⟨e, he, rfl, rfl⟩ := mem_withName.1 h
  obtain ⟨file, hfile, s, hs, rfl⟩ := mem_entries_ofFiles.1 he
  have hnamed := named file hfile s hs
  exact ⟨file.path, s.qualifiedName, rfl, hnamed.colon_notMem,
    Symbol.lastComponent_qualifiedName hnamed.simple⟩

theorem constructorId_makeId (path q : String) :
    constructorId (makeId path q) = makeId path (q ++ "." ++ constructorName) := by
  simp only [constructorId, makeId, String.append_assoc]

theorem agreeOn_ofFiles (named : WellNamed files) (named' : WellNamed files')
    (same : ∀ path,
      concerned name (symbolsAt files path) = concerned name (symbolsAt files' path)) :
    AgreeOn name (ofFiles files) (ofFiles files') := by
  have hsymbols : ∀ path s, s.name = name →
      (s ∈ symbolsAt files path ↔ s ∈ symbolsAt files' path) := by
    intro path s hname
    have hmem : s ∈ concerned name (symbolsAt files path) ↔
        s ∈ concerned name (symbolsAt files' path) := by
      rw [same]
    simpa [concerned, hname] using hmem
  have hentry : ∀ path q, ':' ∉ q.toList → (lastComponent q = name ∨ lastComponent q = "__init__") →
      entry? (ofFiles files) (makeId path q) = entry? (ofFiles files') (makeId path q) := by
    intro path q hq hlast
    rw [entry?_of_concerned named path hq hlast, entry?_of_concerned named' path hq hlast, same]
  refine ⟨simplyNamed_ofFiles fun file hfile s hs => (named file hfile s hs).simple,
    simplyNamed_ofFiles fun file hfile s hs => (named' file hfile s hs).simple, ?_, ?_, ?_⟩
  · intro e hname
    rw [mem_entries_iff_symbolsAt, mem_entries_iff_symbolsAt, hsymbols e.path e.symbol hname]
  · intro id hid
    obtain ⟨path, q, rfl, hq, hlast⟩ := exists_makeId_of_mem_withName named hid
    exact hentry path q hq (.inl hlast)
  · intro id hid
    obtain ⟨path, q, rfl, hq, -⟩ := exists_makeId_of_mem_withName named hid
    rw [constructorId_makeId]
    refine hentry path _ ?_ (.inr (lastComponent_append q (by decide)))
    simp [hq, constructorName]

/-- What a name is resolved to depends, of each file, only on its symbols with the last component of
the name as simple name and on its constructors. -/
theorem resolve_local (named : WellNamed files) (named' : WellNamed files') (target : String)
    (same : ∀ path, concerned (lastComponent target) (symbolsAt files path) =
      concerned (lastComponent target) (symbolsAt files' path))
    (file cls : Option String) :
    ((ofFiles files).resolve target file cls).Perm ((ofFiles files').resolve target file cls) :=
  (agreeOn_ofFiles named named' same).resolve file cls

/-- A function and a class with the same name, among others. -/
def listed : List SourceFile :=
  [⟨"a.py", [⟨"f", .function, 1, 2, none, none⟩, ⟨"C", .classType, 3, 5, none, none⟩,
      ⟨"__init__", .method, 4, 5, none, some "C"⟩], []⟩,
    ⟨"b.py", [⟨"g", .function, 1, 2, none, none⟩, ⟨"f", .classType, 3, 5, none, none⟩,
      ⟨"__init__", .method, 4, 5, none, some "f"⟩], []⟩]

/-- The same function and class among others, and the same constructors. -/
def relisted : List SourceFile :=
  [⟨"c.py", [⟨"h", .function, 1, 2, none, none⟩], []⟩,
    ⟨"b.py", [⟨"f", .classType, 3, 5, none, none⟩, ⟨"k", .method, 3, 3, none, some "f"⟩,
      ⟨"__init__", .method, 4, 5, none, some "f"⟩], []⟩,
    ⟨"a.py", [⟨"f", .function, 1, 2, none, none⟩, ⟨"__init__", .method, 4, 5, none, some "C"⟩], []⟩]

/-- The name is resolved alike in both, though in another order. -/
theorem resolve_local_relisted :
    (ofFiles listed).resolve "f" none none = ["a.py::f", "b.py::f.__init__"] ∧
    (ofFiles relisted).resolve "f" none none = ["b.py::f.__init__", "a.py::f"] ∧
    ((ofFiles listed).resolve "f" none none).Perm ((ofFiles relisted).resolve "f" none none) := by
  have same : ∀ path, concerned (lastComponent "f") (symbolsAt listed path) =
      concerned (lastComponent "f") (symbolsAt relisted path) := by
    intro path
    by_cases ha : "a.py" = path
    · subst ha
      decide +kernel
    by_cases hb : "b.py" = path
    · subst hb
      decide +kernel
    by_cases hc : "c.py" = path
    · subst hc
      decide +kernel
    simp [symbolsAt, listed, relisted, ha, hb, hc]
  exact ⟨by decide +kernel, by decide +kernel,
    resolve_local (by decide +kernel) (by decide +kernel) "f" same none none⟩

end

end SymbolTable

end CallAtlas
