import CallAtlas.Proofs.Computation
import CallAtlas.Proofs.DefinedNames
import CallAtlas.Proofs.Mentions

/-!
# What names resolve to

Whatever way a name is resolved in, the candidates are definitions whose simple name is the last
component of the name.  So all of them can be looked up, and what they denote are functions and
methods with that simple name, or constructors of classes with that simple name.
-/

namespace CallAtlas

namespace SymbolTable

/-- All definitions of a table have simple names. -/
def SimplyNamed (t : SymbolTable) : Prop := ∀ e ∈ t.entries, IsSimpleName e.symbol.name

theorem mem_withName {t : SymbolTable} {name id : String} :
    id ∈ t.withName name ↔ ∃ e ∈ t.entries, e.symbol.name = name ∧ e.id = id := by
  simp [withName, and_assoc]

theorem mem_withQualifiedName {t : SymbolTable} {name id : String} :
    id ∈ t.withQualifiedName name ↔ ∃ e ∈ t.entries, e.symbol.qualifiedName = name ∧ e.id = id := by
  simp [withQualifiedName, and_assoc]

/-- The candidates defined in the file if one is given and has any, otherwise all. -/
def prefer (t : SymbolTable) (file : Option String) (ids : List String) : List String :=
  match file with
  | some path => t.preferFile path ids
  | none => ids

theorem mem_of_mem_prefer {t : SymbolTable} {file : Option String} {ids : List String} {id : String}
    (h : id ∈ t.prefer file ids) : id ∈ ids := by
  cases file with
  | none => exact h
  | some path =>
      unfold prefer preferFile at h
      dsimp only at h
      split at h
      · exact h
      · exact (List.mem_filter.1 h).1

/-- The qualified name that `self` or `cls` with one more component stands for in a class. -/
def memberName? (parts : List String) (cls : Option String) : Option String :=
  match parts, cls with
  | [receiver, name], some c =>
    if receiver ∈ selfReceivers ∧ c ≠ "" then some (c ++ "." ++ name) else none
  | _, _ => none

theorem memberName?_eq_some_iff {parts : List String} {cls : Option String} {q : String} :
    memberName? parts cls = some q ↔ ∃ receiver ∈ selfReceivers, ∃ name c,
      parts = [receiver, name] ∧ cls = some c ∧ c ≠ "" ∧ q = c ++ "." ++ name := by
  constructor
  · intro h
    unfold memberName? at h
    split at h
    · rename_i receiver name c
      split at h
      · rename_i hself
        exact ⟨receiver, hself.1, name, c, rfl, rfl, hself.2, (Option.some.inj h).symm⟩
      · cases h
    · cases h
  · rintro ⟨receiver, hself, name, c, rfl, rfl, hc, rfl⟩
    exact if_pos ⟨hself, hc⟩

theorem memberCandidates_eq (t : SymbolTable) (parts : List String) (file cls : Option String) :
    t.memberCandidates parts file cls =
      match memberName? parts cls with
      | some q => t.prefer file (t.withQualifiedName q)
      | none => [] := by
  unfold memberCandidates
  split
  · unfold memberName?
    dsimp only
    split <;> rfl
  · rename_i hshape
    rw [memberName?.eq_2 parts cls hshape]

theorem resolve_eq (t : SymbolTable) (target : String) (file cls : Option String) :
    t.resolve target file cls =
      t.callables (if 1 < (t.candidates target file cls).length
        then t.prefer file (t.candidates target file cls) else t.candidates target file cls) := by
  cases file with
  | none =>
      unfold resolve prefer
      dsimp only
      rw [ite_self]
  | some path => rfl

/-- The preference for a file does nothing to a single candidate. -/
theorem prefer_of_length {t : SymbolTable} {ids : List String} (h : ¬ 1 < ids.length)
    (file : Option String) : t.prefer file ids = ids := by
  cases file with
  | none => rfl
  | some path =>
      unfold prefer preferFile
      dsimp only
      match ids, h with
      | [], _ => rfl
      | [id], _ => cases hown : (t.entry? id).any fun e => e.path = path <;> simp [hown]
      | _ :: _ :: _, h => simp at h

theorem resolve_eq_prefer (t : SymbolTable) (target : String) (file cls : Option String) :
    t.resolve target file cls = t.callables (t.prefer file (t.candidates target file cls)) := by
  rw [resolve_eq]
  split
  · rfl
  · rename_i hlength
    rw [prefer_of_length hlength]

theorem exists_of_mem_firstNonempty {lists : List (List String)} {id : String}
    (h : id ∈ firstNonempty lists) : ∃ ids ∈ lists, id ∈ ids := by
  induction lists with
  | nil => cases h
  | cons ids lists ih =>
      rw [firstNonempty] at h
      split at h
      · obtain ⟨found, hfound, hid⟩ := ih h
        exact ⟨found, List.mem_cons_of_mem _ hfound, hid⟩
      · exact ⟨ids, List.mem_cons_self, h⟩

theorem firstNonempty_concat (lists : List (List String)) (ids : List String) :
    firstNonempty (lists ++ [ids]) =
      if (firstNonempty lists).isEmpty then ids else firstNonempty lists := by
  induction lists with
  | nil =>
      cases ids <;> rfl
  | cons first lists ih =>
      rw [List.cons_append, firstNonempty, firstNonempty, ih]
      by_cases hfirst : first.isEmpty = true
      · rw [if_pos hfirst, if_pos hfirst]
      · rw [if_neg hfirst, if_neg hfirst, if_neg hfirst]

/-- The last two of some components end with the last one. -/
theorem lastComponent_pair {parts : List String} (hlength : 2 < parts.length)
    (hparts : ∀ part ∈ parts, '.' ∉ part.toList) :
    lastComponent (String.intercalate "." (parts.drop (parts.length - 2))) =
      parts.getLastD "" := by
  have htwo : (parts.drop (parts.length - 2)).length = 2 := by
    rw [List.length_drop]
    omega
  obtain ⟨a, b, hpair⟩ := List.length_eq_two.1 htwo
  have hb : b ∈ parts := List.mem_of_mem_drop (hpair ▸ List.mem_cons_of_mem a List.mem_cons_self)
  have hlast : parts.getLast? = some b := by
    have hdrop := List.getLast?_drop (l := parts) (i := parts.length - 2)
    rw [if_neg (by omega), hpair] at hdrop
    exact hdrop.symm
  have htext : String.intercalate "." [a, b] = a ++ "." ++ b := by
    rw [String.intercalate_cons_cons, String.intercalate_singleton]
  rw [hpair, htext, lastComponent_append a (hparts b hb), List.getLastD_eq_getLast?, hlast]
  rfl

section

variable {t : SymbolTable} {id : String}

/-- Definitions with a qualified name have its last component as their simple name. -/
theorem withName_of_withQualifiedName (simple : t.SimplyNamed) {name : String}
    (h : id ∈ t.withQualifiedName name) : id ∈ t.withName (lastComponent name) := by
  obtain ⟨e, he, rfl, hid⟩ := mem_withQualifiedName.1 h
  exact mem_withName.2 ⟨e, he, (Symbol.lastComponent_qualifiedName (simple e he)).symm, hid⟩

theorem withName_of_memberCandidates (simple : t.SimplyNamed) {parts : List String}
    (hparts : ∀ part ∈ parts, '.' ∉ part.toList) {file cls : Option String}
    (h : id ∈ t.memberCandidates parts file cls) : id ∈ t.withName (parts.getLastD "") := by
  rw [memberCandidates_eq] at h
  split at h
  · rename_i q hq
    obtain ⟨receiver, -, name, c, rfl, -, -, rfl⟩ := memberName?_eq_some_iff.1 hq
    have hfound := withName_of_withQualifiedName simple (mem_of_mem_prefer h)
    rwa [lastComponent_append c (hparts name (by simp))] at hfound
  · cases h

theorem withName_of_pairCandidates (simple : t.SimplyNamed) {parts : List String}
    (hparts : ∀ part ∈ parts, '.' ∉ part.toList) (h : id ∈ t.pairCandidates parts) :
    id ∈ t.withName (parts.getLastD "") := by
  unfold pairCandidates at h
  split at h
  · rename_i hlength
    have hfound := withName_of_withQualifiedName simple h
    rwa [lastComponent_pair hlength hparts] at hfound
  · cases h

theorem withName_of_nameCandidates {parts : List String} (h : id ∈ t.nameCandidates parts) :
    id ∈ t.withName (parts.getLastD "") := by
  unfold nameCandidates at h
  dsimp only at h
  split at h
  · exact h
  · cases h

/-- All candidates for a name have its last component as their simple name. -/
theorem withName_of_candidates (simple : t.SimplyNamed) {target : String} {file cls : Option String}
    (h : id ∈ t.candidates target file cls) : id ∈ t.withName (lastComponent target) := by
  have hparts : ∀ part ∈ Text.split '.' target, '.' ∉ part.toList := fun _ => notMem_of_mem_split
  obtain ⟨ids, hids, hid⟩ := exists_of_mem_firstNonempty h
  simp only [List.mem_cons, List.not_mem_nil, or_false] at hids
  rw [← getLastD_split]
  rcases hids with rfl | rfl | rfl | rfl
  · exact withName_of_memberCandidates simple hparts hid
  · rw [getLastD_split]
    exact withName_of_withQualifiedName simple hid
  · exact withName_of_pairCandidates simple hparts hid
  · exact withName_of_nameCandidates hid

end

/-! ## What candidates denote -/

theorem nodup_foldl_appendNew {ids into : List String} (h : into.Nodup) :
    (ids.foldl appendNew into).Nodup := by
  induction ids generalizing into with
  | nil => exact h
  | cons id ids ih =>
      refine ih ?_
      unfold appendNew
      split
      · exact h
      · rename_i hid
        exact h.append (List.nodup_singleton id) (List.disjoint_singleton.2 hid)

theorem nodup_callables (t : SymbolTable) (ids : List String) : (t.callables ids).Nodup :=
  nodup_foldl_appendNew List.nodup_nil

theorem mem_callables {t : SymbolTable} {ids : List String} {id : String} :
    id ∈ t.callables ids ↔ ∃ i ∈ ids, t.callable? i = some id := by
  rw [callables, mem_foldl_appendNew, List.mem_filterMap]
  simp

def constructorId (id : String) : String := id ++ "." ++ constructorName

/-- An ID denotes itself, or the constructor of the class that it is the ID of. -/
theorem callable?_eq_some_iff {t : SymbolTable} {id m : String} :
    t.callable? id = some m ↔
      (∃ e, t.entry? id = some e ∧ e.symbol.isCallable = true ∧ m = id) ∨
      ∃ e i, t.entry? id = some e ∧ e.symbol.isCallable = false ∧ m = constructorId id ∧
        t.entry? m = some i ∧ i.symbol.isCallable = true := by
  unfold callable?
  cases t.entry? id with
  | none => simp
  | some e =>
      cases hcallable : e.symbol.isCallable with
      | true =>
          simp only [hcallable, Option.some.injEq, if_true]
          constructor
          · rintro rfl
            exact .inl ⟨e, rfl, hcallable, rfl⟩
          · rintro (⟨-, -, -, rfl⟩ | ⟨e, -, rfl, h, -⟩)
            · rfl
            · rw [h] at hcallable
              cases hcallable
      | false =>
          have hinit : id ++ "." ++ constructorName = constructorId id := rfl
          simp only [hinit, hcallable, Option.some.injEq, Bool.false_eq_true, if_false]
          constructor
          · intro h
            split at h
            · rename_i i hi
              split at h
              · rename_i hinit
                obtain rfl := Option.some.inj h
                exact .inr ⟨e, i, rfl, hcallable, rfl, hi, hinit⟩
              · cases h
            · cases h
          · rintro (⟨e, rfl, h, -⟩ | ⟨e, i, rfl, -, rfl, hi, hinit⟩)
            · rw [h] at hcallable
              cases hcallable
            · simp [hi, hinit]

theorem mem_candidates_of_resolve {t : SymbolTable} {target m : String} {file cls : Option String}
    (h : m ∈ t.resolve target file cls) :
    ∃ id ∈ t.candidates target file cls, t.callable? id = some m := by
  rw [resolve_eq_prefer] at h
  obtain ⟨id, hid, hm⟩ := mem_callables.1 h
  exact ⟨id, mem_of_mem_prefer hid, hm⟩

/-! ## Looking up -/

/-- The last definitions of IDs; fails with the first ID that has none. -/
def lookUp (t : SymbolTable) (ids : List String) : Except String (List TableEntry) :=
  ids.mapM fun id =>
    match t.entry? id with
    | some e => .ok e
    | none => .error id

def denoted? (t : SymbolTable) (e : TableEntry) : Option String :=
  if e.symbol.isCallable then some e.id
  else
    match t.entry? (constructorId e.id) with
    | some i => if i.symbol.isCallable then some i.id else none
    | none => none

/-- The functions and methods that IDs denote; all of them are looked up. -/
def callablesChecked (t : SymbolTable) (ids : List String) : Except String (List String) := do
  let entries ← t.lookUp ids
  return (entries.filterMap t.denoted?).foldl appendNew []

/-- The candidates in the given file if there are any; all of them are looked up if a file is
given. -/
def preferChecked (t : SymbolTable) (file : Option String) (ids : List String) :
    Except String (List String) :=
  match file with
  | none => .ok ids
  | some path => do
    let entries ← t.lookUp ids
    let own := (entries.filter fun e => e.path = path).map (·.id)
    return if own.isEmpty then ids else own

def membersChecked (t : SymbolTable) (parts : List String) (file cls : Option String) :
    Except String (List String) :=
  match memberName? parts cls with
  | some q => t.preferChecked file (t.withQualifiedName q)
  | none => .ok []

/-- Definitions with the last component as simple name.  They are looked up only if it matters how
many they denote. -/
def namesChecked (t : SymbolTable) (parts : List String) : Except String (List String) := do
  let ids := t.withName (parts.getLastD "")
  if parts.length = 1 ∨ parts.headD "" ∈ selfReceivers then return ids
  let found ← t.callablesChecked ids
  return if found.length = 1 then ids else []

def candidatesChecked (t : SymbolTable) (target : String) (file cls : Option String) :
    Except String (List String) := do
  let parts := Text.split '.' target
  let members ← t.membersChecked parts file cls
  let found := firstNonempty [members, t.withQualifiedName target, t.pairCandidates parts]
  if found.isEmpty then t.namesChecked parts else return found

/-- Resolves a name with look-ups that fail for an ID without a definition. -/
def resolveChecked (t : SymbolTable) (target : String) (file cls : Option String) :
    Except String (List String) := do
  let ids ← t.candidatesChecked target file cls
  if 1 < ids.length then
    t.callablesChecked (← t.preferChecked file ids)
  else
    t.callablesChecked ids

def Defines (t : SymbolTable) (ids : List String) : Prop :=
  ∀ id ∈ ids, ∃ e, t.entry? id = some e

section

variable {t : SymbolTable} {ids : List String}

theorem defines_withName (name : String) : t.Defines (t.withName name) := by
  intro id hid
  obtain ⟨e, he, -, rfl⟩ := mem_withName.1 hid
  exact exists_entry he

theorem defines_withQualifiedName (name : String) : t.Defines (t.withQualifiedName name) := by
  intro id hid
  obtain ⟨e, he, -, rfl⟩ := mem_withQualifiedName.1 hid
  exact exists_entry he

theorem lookUp_of_defines (defines : t.Defines ids) :
    ∃ entries, t.lookUp ids = .ok entries ∧
      List.Forall₂ (fun id e => t.entry? id = some e) ids entries := by
  obtain ⟨entries, hentries⟩ : ∃ entries, t.lookUp ids = .ok entries := by
    refine mapM_eq_ok fun id hid => ?_
    obtain ⟨e, he⟩ := defines id hid
    exact ⟨e, by rw [he]⟩
  refine ⟨entries, hentries, (mapM_ok hentries).imp fun id e h => ?_⟩
  split at h
  · rename_i found hfound
    rw [hfound, Except.ok.inj h]
  · cases h

theorem denoted?_eq {id : String} {e : TableEntry} (h : t.entry? id = some e) :
    t.denoted? e = t.callable? id := by
  obtain rfl := (mem_entries_of_find h).2
  rw [denoted?, callable?, h, ← constructorId]
  dsimp only
  split
  · rfl
  · cases hinit : t.entry? (constructorId e.id) with
    | none => rfl
    | some i =>
        dsimp only
        rw [(mem_entries_of_find hinit).2]

theorem callablesChecked_eq (defines : t.Defines ids) :
    t.callablesChecked ids = .ok (t.callables ids) := by
  obtain ⟨entries, hentries, hsame⟩ := lookUp_of_defines defines
  have hdenoted : entries.filterMap t.denoted? = ids.filterMap t.callable? := by
    clear hentries defines
    induction hsame with
    | nil => rfl
    | cons hentry _ ih => rw [List.filterMap_cons, List.filterMap_cons, denoted?_eq hentry, ih]
  rw [callablesChecked, hentries, ok_bind, hdenoted]
  rfl

theorem preferChecked_eq (file : Option String) (defines : t.Defines ids) :
    t.preferChecked file ids = .ok (t.prefer file ids) := by
  cases file with
  | none => rfl
  | some path =>
      obtain ⟨entries, hentries, hsame⟩ := lookUp_of_defines defines
      have hown : (entries.filter fun e => e.path = path).map (·.id) =
          ids.filter fun id => (t.entry? id).any fun e => e.path = path := by
        clear hentries defines
        induction hsame with
        | nil => rfl
        | cons hentry _ ih =>
            rw [List.filter_cons, List.filter_cons, hentry, Option.any_some, ← ih]
            split
            · rw [List.map_cons, (mem_entries_of_find hentry).2]
            · rfl
      simp only [preferChecked, hentries, ok_bind, hown]
      rfl

theorem membersChecked_eq (parts : List String) (file cls : Option String) :
    t.membersChecked parts file cls = .ok (t.memberCandidates parts file cls) := by
  rw [membersChecked, memberCandidates_eq]
  split
  · exact preferChecked_eq file (defines_withQualifiedName _)
  · rfl

theorem namesChecked_eq (parts : List String) :
    t.namesChecked parts = .ok (t.nameCandidates parts) := by
  have hcallables := callablesChecked_eq (defines_withName (t := t) (parts.getLastD ""))
  unfold namesChecked nameCandidates
  by_cases hplain : parts.length = 1 ∨ parts.headD "" ∈ selfReceivers
  · rw [if_pos hplain, if_pos (hplain.imp_right .inl)]
    rfl
  · simp only [if_neg hplain, hcallables, ok_bind]
    by_cases hone : (t.callables (t.withName (parts.getLastD ""))).length = 1
    · rw [if_pos hone, if_pos (.inr (.inr hone))]
      rfl
    · rw [if_neg hone, if_neg fun h => hone ((or_assoc.2 h).resolve_left hplain)]
      rfl

theorem candidatesChecked_eq (target : String) (file cls : Option String) :
    t.candidatesChecked target file cls = .ok (t.candidates target file cls) := by
  rw [candidatesChecked, membersChecked_eq, ok_bind]
  dsimp only
  rw [namesChecked_eq]
  exact (apply_ite Except.ok _ _ _).symm.trans (congrArg Except.ok (firstNonempty_concat _ _).symm)

/-- No look-up fails while a name is resolved. -/
theorem resolveChecked_eq (simple : t.SimplyNamed) (target : String) (file cls : Option String) :
    t.resolveChecked target file cls = .ok (t.resolve target file cls) := by
  have defines : t.Defines (t.candidates target file cls) :=
    fun id hid => defines_withName _ id (withName_of_candidates simple hid)
  have preferred : t.Defines (t.prefer file (t.candidates target file cls)) :=
    fun id hid => defines id (mem_of_mem_prefer hid)
  rw [resolveChecked, candidatesChecked_eq, ok_bind, resolve_eq]
  split
  · rw [preferChecked_eq file defines, ok_bind, callablesChecked_eq preferred]
  · rw [callablesChecked_eq defines]

end

end SymbolTable

theorem Symbol.isCallable_eq_false_iff {s : Symbol} :
    s.isCallable = false ↔ s.kind = .classType := by
  simp [Symbol.isCallable]

/-- What the IDs are that a name is resolved to: those of functions and methods with the simple
name, and those of the constructors of classes with the simple name.  The last definition of an ID
counts. -/
inductive Denoted (files : List SourceFile) (name : String) : String → Prop where
  | named {id : String} {file : SourceFile} {s : Symbol} (last : LastDefinition files id file s)
      (callable : s.isCallable = true) (named : s.name = name) : Denoted files name id
  | constructor {id : String} {file file' : SourceFile} {s init : Symbol}
      (last : LastDefinition files id file s) (classType : s.kind = .classType)
      (named : s.name = name) (lastInit : LastDefinition files (id ++ ".__init__") file' init)
      (callable : init.isCallable = true) (initNamed : init.name = "__init__") :
      Denoted files name (id ++ ".__init__")

namespace SymbolTable

section

variable {files : List SourceFile}

theorem simplyNamed_ofFiles (simple : ∀ file ∈ files, ∀ s ∈ file.symbols, IsSimpleName s.name) :
    (ofFiles files).SimplyNamed := by
  intro e he
  obtain ⟨file, hfile, s, hs, rfl⟩ := mem_entries_ofFiles.1 he
  exact simple file hfile s hs

/-- Candidates with a simple name denote what has that name. -/
theorem denoted_of_callable? (simple : ∀ file ∈ files, ∀ s ∈ file.symbols, IsSimpleName s.name)
    {name id m : String} (hid : id ∈ (ofFiles files).withName name)
    (h : (ofFiles files).callable? id = some m) : Denoted files name m := by
  have hname : simpleName id = name := by
    obtain ⟨e, he, hname, rfl⟩ := mem_withName.1 hid
    obtain ⟨file, hfile, s, hs, rfl⟩ := mem_entries_ofFiles.1 he
    exact (simpleName_symbolId file (simple file hfile s hs)).trans hname
  rcases callable?_eq_some_iff.1 h with ⟨e, he, hcallable, rfl⟩ | ⟨e, i, he, hclass, rfl, hi, hinit⟩
  · obtain ⟨file, s, last, rfl⟩ := entry?_ofFiles_eq_some_iff.1 he
    exact .named last hcallable ((last.simpleName_eq simple).trans hname)
  · obtain ⟨file, s, last, rfl⟩ := entry?_ofFiles_eq_some_iff.1 he
    obtain ⟨file', init, lastInit, rfl⟩ := entry?_ofFiles_eq_some_iff.1 hi
    have hid : constructorId id = id ++ ".__init__" := String.append_assoc
    rw [hid] at lastInit ⊢
    refine .constructor last (Symbol.isCallable_eq_false_iff.1 hclass)
      ((last.simpleName_eq simple).trans hname) lastInit hinit ?_
    rw [lastInit.simpleName_eq simple, ← hid]
    exact simpleName_append id (by decide)

/-- In files whose symbols have simple names, every look-up that resolving a name makes succeeds,
and the name is resolved to different IDs of functions and methods with the last component of the
name as their simple name, or of the constructors of classes with it. -/
theorem resolve_sound (files : List SourceFile)
    (simple : ∀ file ∈ files, ∀ s ∈ file.symbols, IsSimpleName s.name) (target : String)
    (file cls : Option String) :
    (ofFiles files).resolveChecked target file cls = .ok ((ofFiles files).resolve target file cls) ∧
    ((ofFiles files).resolve target file cls).Nodup ∧
    ∀ id ∈ (ofFiles files).resolve target file cls, Denoted files (lastComponent target) id := by
  have named := simplyNamed_ofFiles simple
  refine ⟨resolveChecked_eq named target file cls, nodup_callables _ _, ?_⟩
  intro m hm
  obtain ⟨id, hid, hdenotes⟩ := mem_candidates_of_resolve hm
  exact denoted_of_callable? simple (withName_of_candidates named hid) hdenotes

/-- A function whose name is taken over by a class with a constructor, and a class without one. -/
def takenOver : List SourceFile :=
  [⟨"a.py", [⟨"f", .function, 1, 2, none, none⟩, ⟨"f", .classType, 3, 5, none, none⟩,
      ⟨"__init__", .method, 4, 5, none, some "f"⟩], []⟩,
    ⟨"b.py", [⟨"g", .function, 1, 9, none, none⟩, ⟨"f", .classType, 2, 3, none, some "g"⟩], []⟩]

/-- Both classes are candidates, and the name is resolved to the only constructor. -/
theorem resolve_sound_takenOver :
    (∀ file ∈ takenOver, ∀ s ∈ file.symbols, IsSimpleName s.name) ∧
    (ofFiles takenOver).resolve "lib.f" (some "c.py") none = ["a.py::f.__init__"] ∧
    (ofFiles takenOver).resolveChecked "lib.f" (some "c.py") none = .ok ["a.py::f.__init__"] ∧
    Denoted takenOver "f" "a.py::f.__init__" := by
  have simple : ∀ file ∈ takenOver, ∀ s ∈ file.symbols, IsSimpleName s.name := by decide +kernel
  have hresolve : (ofFiles takenOver).resolve "lib.f" (some "c.py") none =
      ["a.py::f.__init__"] := by
    decide +kernel
  obtain ⟨hchecked, -, hdenoted⟩ := resolve_sound takenOver simple "lib.f" (some "c.py") none
  have hlast : lastComponent "lib.f" = "f" := by decide +kernel
  rw [hresolve] at hchecked hdenoted
  exact ⟨simple, hresolve, hchecked, hlast ▸ hdenoted _ (List.mem_singleton.2 rfl)⟩

end

end SymbolTable

end CallAtlas
