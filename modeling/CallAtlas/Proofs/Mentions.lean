import CallAtlas.Proofs.Extraction
import CallAtlas.Proofs.Focus
import CallAtlas.Resolver.Index

/-!
# Callers and callees

An index keeps the mentions of a method and the callees of a method apart.  Over files that have
been read from texts both describe one relation: a method calls another exactly if the innermost
function around one of the references in its body resolves to the other.
-/

namespace CallAtlas

open Project (SearchScope)

namespace SymbolTable

theorem mem_foldl_appendNew {ids into : List String} {x : String} :
    x ∈ ids.foldl appendNew into ↔ x ∈ into ∨ x ∈ ids := by
  induction ids generalizing into with
  | nil => simp
  | cons id ids ih =>
      have hnew : x ∈ appendNew into id ↔ x ∈ into ∨ x = id := by
        unfold appendNew
        split
        · rename_i hid
          constructor
          · exact Or.inl
          · rintro (hx | rfl)
            · exact hx
            · exact hid
        · simp
      rw [List.foldl_cons, ih, hnew, List.mem_cons, or_assoc]

theorem mem_entries_of_find {table : SymbolTable} {id : String} {e : TableEntry}
    (h : table.entry? id = some e) : e ∈ table.entries ∧ e.id = id := by
  unfold entry? at h
  exact ⟨List.mem_reverse.1 (List.mem_of_find?_eq_some h), by simpa using List.find?_some h⟩

/-- An ID denotes nothing but functions and methods of the table. -/
theorem callable_of_callable? {table : SymbolTable} {id m : String}
    (h : table.callable? id = some m) :
    ∃ e ∈ table.entries, e.id = m ∧ e.symbol.isCallable = true := by
  unfold callable? at h
  split at h
  · cases h
  · rename_i e he
    split at h
    · rename_i hcallable
      obtain rfl := Option.some.inj h
      exact ⟨e, (mem_entries_of_find he).1, (mem_entries_of_find he).2, hcallable⟩
    · dsimp only at h
      split at h
      · rename_i init hinit
        split at h
        · rename_i hcallable
          obtain rfl := Option.some.inj h
          exact ⟨init, (mem_entries_of_find hinit).1, (mem_entries_of_find hinit).2, hcallable⟩
        · cases h
      · cases h

theorem callable_of_resolve {table : SymbolTable} {target m : String} {path cls : Option String}
    (h : m ∈ table.resolve target path cls) :
    ∃ e ∈ table.entries, e.id = m ∧ e.symbol.isCallable = true := by
  rcases mem_foldl_appendNew.1 h with h | h
  · cases h
  · obtain ⟨id, -, hid⟩ := List.mem_filterMap.1 h
    exact callable_of_callable? hid

end SymbolTable

namespace ProjectIndex

theorem mem_put {α : Type} {key : String} {value : α} {entries : List (String × α)}
    {entry : String × α} (h : entry ∈ put key value entries) :
    entry = (key, value) ∨ entry ∈ entries := by
  induction entries with
  | nil => exact .inl (List.mem_singleton.1 h)
  | cons first entries ih =>
      obtain ⟨k, v⟩ := first
      rw [put] at h
      split at h
      · rename_i hk
        subst hk
        rcases List.mem_cons.1 h with h | h
        · exact .inl h
        · exact .inr (List.mem_cons_of_mem _ h)
      · rcases List.mem_cons.1 h with h | h
        · exact .inr (h ▸ List.mem_cons_self)
        · exact (ih h).imp_right (List.mem_cons_of_mem _)

theorem mem_keys_put {α : Type} {key k : String} {value : α} {entries : List (String × α)} :
    k ∈ (put key value entries).map (·.1) ↔ k ∈ entries.map (·.1) ∨ k = key := by
  induction entries with
  | nil => simp [put]
  | cons first entries ih =>
      obtain ⟨k₁, v₁⟩ := first
      rw [put]
      split
      · rename_i hk
        subst hk
        simp only [List.map_cons, List.mem_cons]
        tauto
      · rw [List.map_cons, List.mem_cons, ih, List.map_cons, List.mem_cons, or_assoc]

theorem mem_putAll {new entries : List (String × Method)} {entry : String × Method}
    (h : entry ∈ new.foldl (fun ms m => put m.1 m.2 ms) entries) :
    entry ∈ entries ∨ entry ∈ new := by
  induction new generalizing entries with
  | nil => exact .inl h
  | cons first new ih =>
      rcases ih h with h | h
      · rcases mem_put h with rfl | h
        · exact .inr List.mem_cons_self
        · exact .inl h
      · exact .inr (List.mem_cons_of_mem _ h)

theorem mem_keys_putAll {new entries : List (String × Method)} {k : String} :
    k ∈ (new.foldl (fun ms m => put m.1 m.2 ms) entries).map (·.1) ↔
      k ∈ entries.map (·.1) ∨ k ∈ new.map (·.1) := by
  induction new generalizing entries with
  | nil => simp
  | cons first new ih =>
      rw [List.foldl_cons, ih, mem_keys_put, List.map_cons, List.mem_cons, or_assoc]

section

variable {files : List SourceFile} {file : SourceFile} {m t : String} {record : Method}

/-- A method of an index is a function or method that one of the files defines. -/
theorem symbol_of_indexed (h : (m, record) ∈ (ofFiles files).methods) :
    ∃ file ∈ files, record.filePath = file.path ∧
      ∃ s ∈ file.symbols, s.isCallable = true ∧ file.symbolId s = m := by
  rcases mem_putAll h with h | h
  · cases h
  · obtain ⟨file, hfile, h⟩ := List.mem_flatMap.1 h
    obtain ⟨s, hs, heq⟩ := List.mem_map.1 h
    obtain ⟨rfl, rfl⟩ := Prod.mk.inj heq
    obtain ⟨hs, hcallable⟩ := List.mem_filter.1 hs
    exact ⟨file, hfile, rfl, s, hs, hcallable, rfl⟩

theorem indexed_of_symbol (hfile : file ∈ files) {s : Symbol} (hs : s ∈ file.symbols)
    (hcallable : s.isCallable = true) :
    ∃ record, (file.symbolId s, record) ∈ (ofFiles files).methods := by
  have hkey : file.symbolId s ∈ (ofFiles files).methods.map (·.1) := by
    refine mem_keys_putAll.2 (.inr ?_)
    have hmem : (file.symbolId s, Method.ofSymbol file.path (file.symbolId s) s) ∈ fileMethods file :=
      List.mem_map.2 ⟨s, List.mem_filter.2 ⟨hs, hcallable⟩, rfl⟩
    exact List.mem_map_of_mem (List.mem_flatMap.2 ⟨file, hfile, hmem⟩)
  obtain ⟨⟨id, record⟩, hmem, rfl⟩ := List.mem_map.1 hkey
  exact ⟨record, hmem⟩

/-- The ID of a method tells its file. -/
theorem filePath_of_symbol (wellFormed : ∀ file ∈ files, file.WellFormed) (hfile : file ∈ files)
    {s : Symbol} (hs : s ∈ file.symbols)
    (h : (file.symbolId s, record) ∈ (ofFiles files).methods) : record.filePath = file.path := by
  obtain ⟨other, hother, hpath, s', hs', -, heq⟩ := symbol_of_indexed h
  rw [hpath]
  exact (makeId_inj ((wellFormed other hother).colon_notMem s' hs')
    ((wellFormed file hfile).colon_notMem s hs) heq).1

/-- The methods around a reference are in the index, as methods of the same file. -/
theorem indexed_of_enclosing (wellFormed : ∀ file ∈ files, file.WellFormed) (hfile : file ∈ files)
    {ref : Reference} (href : ref ∈ file.references) (hm : m ∈ ref.enclosing) :
    (∃ record, (m, record) ∈ (ofFiles files).methods) ∧
      ∀ record, (m, record) ∈ (ofFiles files).methods → record.filePath = file.path := by
  obtain ⟨s, hs, hcallable, rfl⟩ := (wellFormed file hfile).enclosing ref href m hm
  exact ⟨indexed_of_symbol hfile hs hcallable,
    fun record hrecord => filePath_of_symbol wellFormed hfile hs hrecord⟩

/-- The body of a method of a file mentions another method. -/
def Calls (files : List SourceFile) (file : SourceFile) (m t : String) : Prop :=
  ∃ ref ∈ file.references, ref.enclosing.head? = some m ∧
    t ∈ (SymbolTable.ofFiles files).resolve ref.target (some file.path) ref.enclosingClass

theorem mem_calls :
    (m, t) ∈ (ofFiles files).calls ↔ ∃ file ∈ files, Calls files file m t := by
  constructor
  · intro h
    obtain ⟨resolved, hresolved, h⟩ := List.mem_flatMap.1 h
    obtain ⟨file, hfile, hresolved⟩ := List.mem_flatMap.1 hresolved
    obtain ⟨ref, href, rfl⟩ := List.mem_map.1 hresolved
    refine ⟨file, hfile, ref, href, ?_⟩
    cases hhead : ref.enclosing.head? with
    | none => simp [hhead] at h
    | some id => simp_all
  · rintro ⟨file, hfile, ref, href, hhead, ht⟩
    refine List.mem_flatMap.2 ⟨_, List.mem_flatMap.2 ⟨file, hfile, List.mem_map_of_mem href⟩, ?_⟩
    simp [hhead, ht]

theorem mem_calleesOf : t ∈ (ofFiles files).calleesOf m ↔ ∃ file ∈ files, Calls files file m t := by
  unfold calleesOf
  rw [← mem_calls, List.mem_eraseDups, List.mem_map]
  constructor
  · rintro ⟨⟨source, target⟩, h, rfl⟩
    obtain ⟨h, hsource⟩ := List.mem_filter.1 h
    rwa [← of_decide_eq_true hsource]
  · intro h
    exact ⟨(m, t), List.mem_filter.2 ⟨h, decide_eq_true rfl⟩, rfl⟩

/-- Every function around a reference is known, so the index drops none of them. -/
theorem filter_known (wellFormed : ∀ file ∈ files, file.WellFormed) (hfile : file ∈ files)
    {ref : Reference} (href : ref ∈ file.references) :
    ref.enclosing.filter (fun id => (collectMethods files).any fun m => m.1 = id) =
      ref.enclosing := by
  refine List.filter_eq_self.2 fun id hid => ?_
  obtain ⟨⟨record, hrecord⟩, -⟩ := indexed_of_enclosing wellFormed hfile href hid
  exact List.any_eq_true.2 ⟨_, hrecord, by simp⟩

def siteOf (file : SourceFile) (ref : Reference) : Site :=
  ⟨file.path, ref.line, ref.target, ref.kind, ref.enclosing⟩

/-- The sites of an index are those of the references, one for each method that a reference may
denote, with all functions around the reference. -/
theorem sites_eq (wellFormed : ∀ file ∈ files, file.WellFormed) :
    (ofFiles files).sites = files.flatMap fun file => file.references.flatMap fun ref =>
      ((SymbolTable.ofFiles files).resolve ref.target (some file.path) ref.enclosingClass).map
        fun t => (t, siteOf file ref) := by
  unfold ofFiles
  dsimp only
  rw [List.flatMap_assoc]
  refine List.flatMap_congr fun file hfile => ?_
  rw [resolveFile, List.flatMap_map]
  refine List.flatMap_congr fun ref href => ?_
  simp only [filter_known wellFormed hfile href, siteOf]

/-- A mention at a site stands in a file, and all functions around it are in the index. -/
theorem mem_sitesOf (wellFormed : ∀ file ∈ files, file.WellFormed) {site : Site} :
    site ∈ (ofFiles files).sitesOf t ↔
      ∃ file ∈ files, ∃ ref ∈ file.references,
        t ∈ (SymbolTable.ofFiles files).resolve ref.target (some file.path) ref.enclosingClass ∧
        site = ⟨file.path, ref.line, ref.target, ref.kind, ref.enclosing⟩ := by
  unfold sitesOf
  rw [sites_eq wellFormed, List.mem_map]
  constructor
  · rintro ⟨⟨target, site⟩, h, rfl⟩
    obtain ⟨h, htarget⟩ := List.mem_filter.1 h
    obtain ⟨file, hfile, h⟩ := List.mem_flatMap.1 h
    obtain ⟨ref, href, h⟩ := List.mem_flatMap.1 h
    obtain ⟨t', ht', heq⟩ := List.mem_map.1 h
    obtain ⟨rfl, rfl⟩ := Prod.mk.inj heq
    obtain rfl : t' = t := by simpa using htarget
    exact ⟨file, hfile, ref, href, ht', rfl⟩
  · rintro ⟨file, hfile, ref, href, ht, rfl⟩
    refine ⟨(t, _), List.mem_filter.2 ⟨?_, by simp⟩, rfl⟩
    exact List.mem_flatMap.2 ⟨file, hfile, List.mem_flatMap.2 ⟨ref, href, List.mem_map_of_mem ht⟩⟩

/-- What a reference resolves to is in the index. -/
theorem indexed_of_resolve {target : String} {path cls : Option String}
    (h : t ∈ (SymbolTable.ofFiles files).resolve target path cls) :
    ∃ record, (t, record) ∈ (ofFiles files).methods := by
  obtain ⟨e, he, rfl, hcallable⟩ := SymbolTable.callable_of_resolve h
  obtain ⟨file, hfile, he⟩ := List.mem_flatMap.1 he
  obtain ⟨s, hs, rfl⟩ := List.mem_map.1 he
  exact indexed_of_symbol hfile hs hcallable

/-! ## Callers of a method -/

/-- Of the functions around a site, the innermost one is the caller. -/
theorem containing?_eq_head? {r : Resolver} (hdepth : 1 ≤ r.maxNestingDepth)
    {known : Option (List String)} {site : Site}
    (hknown : ∀ ids, known = some ids → ∀ m, site.enclosing.head? = some m → m ∈ ids) :
    r.containing? known site = site.enclosing.head? := by
  unfold Resolver.containing? nearest?
  obtain ⟨depth, hdepth⟩ : ∃ n, r.maxNestingDepth.toNat = n + 1 :=
    ⟨r.maxNestingDepth.toNat - 1, by omega⟩
  rw [hdepth]
  cases henclosing : site.enclosing with
  | nil => rfl
  | cons m outer =>
      rw [List.take_succ_cons, List.head?_cons]
      refine List.find?_cons_of_pos ?_
      cases known with
      | none => rfl
      | some ids =>
          refine List.contains_iff_mem.2 (hknown ids rfl m ?_)
          rw [henclosing, List.head?_cons]

/-- The methods of an index that are defined inside a scope. -/
def InScope (index : ProjectIndex) (scope : SearchScope) (m : String) : Prop :=
  ∃ record, (m, record) ∈ index.methods ∧ scope.contains record.filePath = true

theorem mem_methodsIn {index : ProjectIndex} {depth : Int} {scope : SearchScope}
    {ids : List String} (h : (index.resolver depth).methodsIn scope = .ok ids) :
    m ∈ ids ↔ index.InScope scope m := by
  obtain rfl := Except.ok.inj h
  rw [List.mem_map]
  constructor
  · rintro ⟨⟨id, record⟩, hmem, rfl⟩
    exact ⟨record, List.mem_filter.1 hmem⟩
  · rintro ⟨record, hmem⟩
    exact ⟨(m, record), List.mem_filter.2 hmem, rfl⟩

theorem inScope_iff (wellFormed : ∀ file ∈ files, file.WellFormed) {scope : SearchScope}
    (h : (m, record) ∈ (ofFiles files).methods) :
    (ofFiles files).InScope scope m ↔ scope.contains record.filePath = true := by
  constructor
  · rintro ⟨other, hother, hscope⟩
    obtain ⟨file, hfile, hpath, s, hs, -, rfl⟩ := symbol_of_indexed h
    rwa [hpath, ← filePath_of_symbol wellFormed hfile hs hother]
  · intro hscope
    exact ⟨record, h, hscope⟩

/-- Whether every function counts as a caller or only those of the scope, the callers of a method are
the methods of the scope that have it as a callee. -/
theorem directCallers_iff (wellFormed : ∀ file ∈ files, file.WellFormed) {depth : Int}
    (hdepth : 1 ≤ depth) (scope : SearchScope) (known : Option (List String))
    (hknown : ∀ ids, known = some ids →
      ((ofFiles files).resolver depth).methodsIn scope = .ok ids) (t : String) :
    ∃ callers, ((ofFiles files).resolver depth).directCallers scope known t = .ok callers ∧
      ∀ m, m ∈ callers ↔ t ∈ (ofFiles files).calleesOf m ∧ (ofFiles files).InScope scope m := by
  refine ⟨_, rfl, fun m => ?_⟩
  rw [List.mem_eraseDups, List.mem_filterMap]
  have hcaller : ∀ file ∈ files, ∀ ref ∈ file.references, scope.contains file.path = true →
      ((ofFiles files).resolver depth).containing? known
        ⟨file.path, ref.line, ref.target, ref.kind, ref.enclosing⟩ = ref.enclosing.head? := by
    intro file hfile ref href hscope
    refine containing?_eq_head? hdepth fun ids hids id hid => ?_
    obtain ⟨⟨record, hrecord⟩, hpath⟩ :=
      indexed_of_enclosing wellFormed hfile href (List.mem_of_mem_head? hid)
    exact (mem_methodsIn (hknown ids hids)).2 ⟨record, hrecord, by rw [hpath record hrecord, hscope]⟩
  constructor
  · rintro ⟨site, hsite, hm⟩
    obtain ⟨hsite, hscope⟩ := List.mem_filter.1 hsite
    obtain ⟨file, hfile, ref, href, ht, rfl⟩ := (mem_sitesOf wellFormed).1 hsite
    rw [hcaller file hfile ref href hscope] at hm
    obtain ⟨⟨record, hrecord⟩, hpath⟩ :=
      indexed_of_enclosing wellFormed hfile href (List.mem_of_mem_head? hm)
    exact ⟨mem_calleesOf.2 ⟨file, hfile, ref, href, hm, ht⟩, record, hrecord,
      by rw [hpath record hrecord, hscope]⟩
  · rintro ⟨hcallee, record, hrecord, hscope⟩
    obtain ⟨file, hfile, ref, href, hm, ht⟩ := mem_calleesOf.1 hcallee
    obtain ⟨-, hpath⟩ := indexed_of_enclosing wellFormed hfile href (List.mem_of_mem_head? hm)
    rw [hpath record hrecord] at hscope
    refine ⟨_, List.mem_filter.2 ⟨(mem_sitesOf wellFormed).2 ⟨file, hfile, ref, href, ht, rfl⟩, hscope⟩, ?_⟩
    rw [hcaller file hfile ref href hscope, hm]

/-- The map of a scope has, for every method of the scope, the methods of the scope that have it as a
callee. -/
theorem scopeMap_iff (wellFormed : ∀ file ∈ files, file.WellFormed) {depth : Int}
    (hdepth : 1 ≤ depth) (scope : SearchScope) (pool : Pool) :
    ∃ whole w, Traversal.scopeMap ((ofFiles files).resolver depth).toResolver scope pool
        (.start .never) = (.ok whole, w) ∧
      (∀ t, t ∈ whole.keys ↔ (ofFiles files).InScope scope t) ∧
      ∀ t ∈ whole.keys, ∀ m, m ∈ whole.callersOf t ↔
        t ∈ (ofFiles files).calleesOf m ∧ (ofFiles files).InScope scope m := by
  obtain ⟨ids, hids⟩ : ∃ ids, ((ofFiles files).resolver depth).methodsIn scope = .ok ids := ⟨_, rfl⟩
  have hcallers := directCallers_iff wellFormed hdepth scope (some ids)
    fun _ heq => Option.some.inj heq ▸ hids
  obtain ⟨whole, w, hwhole⟩ := Traversal.scopeMap_calm (w := .start .never) pool rfl hids
    fun t _ => (hcallers t).imp fun _ => And.left
  refine ⟨whole, w, hwhole, ?_⟩
  obtain ⟨ids', hids', -, hkeys, hdirect⟩ := Traversal.scopeMap_ok hwhole
  obtain rfl : ids = ids' := Except.ok.inj (hids.symm.trans hids')
  constructor
  · intro t
    rw [hkeys, mem_methodsIn hids]
  · intro t ht m
    obtain ⟨callers, hok, hiff⟩ := hcallers t
    rw [hdirect t ht] at hok
    rw [Except.ok.inj hok, hiff]

/-- Upstream of a method, every key has the methods of the scope that have it as a callee. -/
theorem focusMap_upstream_iff (wellFormed : ∀ file ∈ files, file.WellFormed) {depth : Int}
    (hdepth : 1 ≤ depth) (scope : SearchScope) (pool : Pool) (focus : String) :
    ∃ up w, ((ofFiles files).resolver depth).focusMap scope .upstream pool focus
        (.start .never) = (.ok up, w) ∧ focus ∈ up.keys ∧
      ∀ t ∈ up.keys, ∀ m, m ∈ up.callersOf t ↔
        t ∈ (ofFiles files).calleesOf m ∧ (ofFiles files).InScope scope m := by
  have hcallers := directCallers_iff wellFormed hdepth scope none fun _ heq => nomatch heq
  obtain ⟨up, w, hup, hfocus, hdirect⟩ := Traversal.focusMap_upstream_calm (w := .start .never)
    ((ofFiles files).resolver depth) scope pool focus rfl fun t => (hcallers t).imp fun _ => And.left
  refine ⟨up, w, hup, hfocus, ?_⟩
  intro t ht m
  obtain ⟨found, hfound, hmem⟩ := hdirect t ht
  obtain ⟨callers, hok, hiff⟩ := hcallers t
  rw [hfound] at hok
  rw [hmem, Except.ok.inj hok, hiff]

/-- Over files that have been read from texts, the mentions of a method and the callees of a method
describe one relation, and so do the maps that are gathered from them.  The callers of a method are
the methods of the scope that have it as a callee, the map of a scope has exactly these for every
method of the scope, and upstream of a method the keys in the scope have the same callers. -/
theorem callers_iff_callees
    (parsed : ∀ file ∈ files, ∃ text, SourceFile.parse file.path text = .ok (some file))
    {depth : Int} (hdepth : 1 ≤ depth) (scope : SearchScope) (pool pool' : Pool) :
    let index := ofFiles files
    let r := index.resolver depth
    (∀ m, r.callees m = .ok (index.calleesOf m) ∧
      ∀ t ∈ index.calleesOf m, ∃ record, (t, record) ∈ index.methods) ∧
    (∃ ids, r.methodsIn scope = .ok ids ∧
      ∀ known ∈ [none, some ids], ∀ t, ∃ callers, r.directCallers scope known t = .ok callers ∧
        (∀ m ∈ callers, ∃ record, (m, record) ∈ index.methods) ∧
        ∀ m record, (m, record) ∈ index.methods →
          (m ∈ callers ↔ t ∈ index.calleesOf m ∧ scope.contains record.filePath = true)) ∧
    ∃ whole w, Traversal.scopeMap r.toResolver scope pool (.start .never) = (.ok whole, w) ∧
      (∀ t, t ∈ whole.keys ↔ index.InScope scope t) ∧
      (∀ t ∈ whole.keys, ∀ m, m ∈ whole.callersOf t ↔
        t ∈ index.calleesOf m ∧ index.InScope scope m) ∧
      ∀ focus, ∃ up w', r.focusMap scope .upstream pool' focus (.start .never) = (.ok up, w') ∧
        focus ∈ up.keys ∧ ∀ t ∈ up.keys, index.InScope scope t →
          ∀ m, m ∈ up.callersOf t ↔ m ∈ whole.callersOf t := by
  have wellFormed : ∀ file ∈ files, file.WellFormed := by
    intro file hfile
    obtain ⟨text, htext⟩ := parsed file hfile
    exact wellFormed_of_parse htext
  intro index r
  refine ⟨?_, ?_, ?_⟩
  · intro m
    refine ⟨rfl, fun t ht => ?_⟩
    obtain ⟨file, -, ref, -, -, hresolve⟩ := mem_calleesOf.1 ht
    exact indexed_of_resolve hresolve
  · refine ⟨_, rfl, fun known hknown t => ?_⟩
    have hmethods : ∀ ids, known = some ids → r.methodsIn scope = .ok ids := by
      rintro ids rfl
      rw [List.mem_cons, List.mem_singleton] at hknown
      rcases hknown with hnone | hsome
      · cases hnone
      · exact congrArg Except.ok (Option.some.inj hsome).symm
    obtain ⟨callers, hok, hiff⟩ := directCallers_iff wellFormed hdepth scope known hmethods t
    refine ⟨callers, hok, ?_, ?_⟩
    · intro m hm
      obtain ⟨-, record, hrecord, -⟩ := (hiff m).1 hm
      exact ⟨record, hrecord⟩
    · intro m record hrecord
      rw [hiff m, inScope_iff wellFormed hrecord]
  · obtain ⟨whole, w, hwhole, hkeys, hcallers⟩ := scopeMap_iff wellFormed hdepth scope pool
    refine ⟨whole, w, hwhole, hkeys, hcallers, fun focus => ?_⟩
    obtain ⟨up, w', hup, hfocus, hcallers'⟩ :=
      focusMap_upstream_iff wellFormed hdepth scope pool' focus
    refine ⟨up, w', hup, hfocus, fun t ht hscope m => ?_⟩
    rw [hcallers' t ht m, hcallers t ((hkeys t).2 hscope) m]

end

def nestedFile : SourceFile where
  path := "a.py"
  symbols := [
    ⟨"f", .function, 1, 4, some "def f()", none⟩,
    ⟨"g", .function, 2, 3, some "def g()", some "f"⟩]
  references := [
    ⟨"a.py::f.g", "f", .calls, 3, ["a.py::f.g", "a.py::f"], none⟩,
    ⟨"a.py::f", "g", .calls, 4, ["a.py::f"], none⟩]

theorem parse_nestedFile :
    SourceFile.parse "a.py" "def f():\n  def g():\n    f()\n  g()\n" = .ok (some nestedFile) :=
  eq_ok_of_toOption (by decide +kernel)

/-- In the map of the whole project, each of the two nested functions is a caller of the other one
but not of itself. -/
theorem callers_iff_callees_nested :
    ∃ whole w, Traversal.scopeMap ((ofFiles [nestedFile]).resolver 1).toResolver .wholeProject
        ⟨1, .given⟩ (.start .never) = (.ok whole, w) ∧
      "a.py::f.g" ∈ whole.callersOf "a.py::f" ∧ "a.py::f" ∈ whole.callersOf "a.py::f.g" ∧
      "a.py::f" ∉ whole.callersOf "a.py::f" := by
  have hparsed : ∀ file ∈ [nestedFile], ∃ text, SourceFile.parse file.path text = .ok (some file) := by
    intro file hfile
    obtain rfl := List.mem_singleton.1 hfile
    exact ⟨_, parse_nestedFile⟩
  obtain ⟨-, -, whole, w, hwhole, hkeys, hcallers, -⟩ :=
    callers_iff_callees hparsed (le_refl 1) .wholeProject ⟨1, .given⟩ ⟨1, .given⟩
  have houter : (ofFiles [nestedFile]).InScope .wholeProject "a.py::f" :=
    ⟨Method.ofSymbol "a.py" "a.py::f" ⟨"f", .function, 1, 4, some "def f()", none⟩,
      by decide +kernel, by decide +kernel⟩
  have hinner : (ofFiles [nestedFile]).InScope .wholeProject "a.py::f.g" :=
    ⟨Method.ofSymbol "a.py" "a.py::f.g" ⟨"g", .function, 2, 3, some "def g()", some "f"⟩,
      by decide +kernel, by decide +kernel⟩
  refine ⟨whole, w, hwhole, ?_, ?_, ?_⟩
  · exact (hcallers _ ((hkeys _).2 houter) _).2 ⟨by decide +kernel, hinner⟩
  · exact (hcallers _ ((hkeys _).2 hinner) _).2 ⟨by decide +kernel, houter⟩
  · intro hself
    have hcallee := ((hcallers _ ((hkeys _).2 houter) _).1 hself).1
    revert hcallee
    decide +kernel

end ProjectIndex

end CallAtlas
