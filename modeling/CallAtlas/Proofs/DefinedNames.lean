import CallAtlas.Proofs.Extraction
import CallAtlas.Proofs.Paths
import CallAtlas.Symbol.Table
import Mathlib.Data.List.DropRight
import Mathlib.Data.List.Find

/-!
# Names of definitions

The simple name of a definition stands at the end of its qualified name and of its ID, after the
last point or colon, because it holds neither of them.  If the qualified name holds no colon at all,
the ID tells the file too, and the last definition of an ID is the last one with that name in that
file.
-/

namespace CallAtlas

namespace Text

/-- What stands after the last of the characters that divide a text. -/
def afterLast (divides : Char → Bool) (s : String) : String :=
  String.ofList (s.toList.rtakeWhile fun c => !divides c)

theorem afterLast_of_append {divides : Char → Bool} {s name : String} (start : List Char) {c : Char}
    (hs : s.toList = start ++ c :: name.toList) (hc : divides c = true)
    (hname : ∀ d ∈ name.toList, divides d = false) : afterLast divides s = name := by
  have hreverse : ∀ d ∈ name.toList.reverse, (!divides d) = true := by
    simpa using hname
  rw [afterLast, hs, List.rtakeWhile, List.reverse_append, List.reverse_cons, List.append_assoc,
    List.takeWhile_append_of_pos hreverse]
  simp [hc]

theorem afterLast_of_forall {divides : Char → Bool} {s : String}
    (h : ∀ d ∈ s.toList, divides d = false) : afterLast divides s = s := by
  have hself : s.toList.rtakeWhile (fun c => !divides c) = s.toList :=
    List.rtakeWhile_eq_self_iff.2 (by simpa using h)
  rw [afterLast, hself, String.ofList_toList]

end Text

def lastComponent (name : String) : String := Text.afterLast (· == '.') name

theorem lastComponent_append (start : String) {name : String} (h : '.' ∉ name.toList) :
    lastComponent (start ++ "." ++ name) = name := by
  refine Text.afterLast_of_append start.toList (c := '.') (by simp) rfl fun d hd => ?_
  exact beq_eq_false_iff_ne.2 fun heq => h (heq ▸ hd)

theorem lastComponent_of_notMem {name : String} (h : '.' ∉ name.toList) :
    lastComponent name = name :=
  Text.afterLast_of_forall fun _ hd => beq_eq_false_iff_ne.2 fun heq => h (heq ▸ hd)

theorem split_of_notMem {name : String} (h : '.' ∉ name.toList) : Text.split '.' name = [name] := by
  rw [Text.split, Text.splitChars_of_notMem h]
  simp

theorem split_append (start name : String) :
    Text.split '.' (start ++ "." ++ name) = Text.split '.' start ++ Text.split '.' name := by
  have htext : (start ++ "." ++ name).toList = start.toList ++ '.' :: name.toList := by simp
  rw [Text.split, htext, Text.splitChars_append, List.map_append]
  rfl

/-- A dotted name ends with a component after a point, or it is a component itself. -/
theorem component_or_append (name : String) :
    '.' ∉ name.toList ∨ ∃ start last, name = start ++ "." ++ last ∧ '.' ∉ last.toList := by
  by_cases h : '.' ∈ name.toList
  · -- the first point of the reversed text is the last one of the text
    obtain ⟨last, start, heq, hlast⟩ := List.eq_append_cons_of_mem (List.mem_reverse.2 h)
    refine .inr ⟨String.ofList start.reverse, String.ofList last.reverse, ?_, by simpa using hlast⟩
    have hname := congrArg List.reverse heq
    rw [List.reverse_reverse] at hname
    apply String.toList_injective
    simp [hname]
  · exact .inl h

/-- The last of the pieces between the points of a name is its last component. -/
theorem getLastD_split (name : String) :
    (Text.split '.' name).getLastD "" = lastComponent name := by
  rcases component_or_append name with h | ⟨start, last, rfl, h⟩
  · rw [split_of_notMem h, lastComponent_of_notMem h]
    rfl
  · rw [split_append, split_of_notMem h, lastComponent_append start h]
    simp

theorem split_eq_pair {name receiver last : String} (h : Text.split '.' name = [receiver, last]) :
    name = receiver ++ "." ++ last := by
  rcases component_or_append name with hname | ⟨start, last', rfl, hlast⟩
  · rw [split_of_notMem hname] at h
    cases h
  · rw [split_append, split_of_notMem hlast] at h
    obtain ⟨hstart, hlast⟩ := List.append_singleton_inj.1 (h.trans (List.singleton_append).symm)
    rcases component_or_append start with hpoint | ⟨first, second, rfl, hsecond⟩
    · rw [split_of_notMem hpoint] at hstart
      rw [(List.cons.inj hstart).1, hlast]
    · rw [split_append, split_of_notMem hsecond] at hstart
      obtain ⟨hnil, -⟩ := List.append_singleton_inj.1 (hstart.trans (List.nil_append _).symm)
      exact absurd (List.map_eq_nil_iff.1 hnil) (Text.splitChars_ne_nil _ _)

/-- A name that can stand between points and after colons. -/
def IsSimpleName (name : String) : Prop := '.' ∉ name.toList ∧ ':' ∉ name.toList

instance (name : String) : Decidable (IsSimpleName name) := inferInstanceAs (Decidable (_ ∧ _))

/-- What stands after the last point or colon of an ID. -/
def simpleName (id : String) : String := Text.afterLast (fun c => c == '.' || c == ':') id

theorem IsSimpleName.divides_eq_false {name : String} (simple : IsSimpleName name) :
    ∀ c ∈ name.toList, (c == '.' || c == ':') = false := by
  intro c hc
  rw [Bool.or_eq_false_iff, beq_eq_false_iff_ne, beq_eq_false_iff_ne]
  exact ⟨fun heq => simple.1 (heq ▸ hc), fun heq => simple.2 (heq ▸ hc)⟩

theorem simpleName_append (start : String) {name : String} (simple : IsSimpleName name) :
    simpleName (start ++ "." ++ name) = name :=
  Text.afterLast_of_append start.toList (c := '.') (by simp) rfl simple.divides_eq_false

/-- A qualified name is a simple name, or it ends with one after a point. -/
theorem Symbol.qualifiedName_cases (s : Symbol) :
    s.qualifiedName = s.name ∨
      ∃ parent, s.parent = some parent ∧ parent ≠ "" ∧
        s.qualifiedName = parent ++ "." ++ s.name := by
  unfold Symbol.qualifiedName qualify
  cases s.parent with
  | none => exact .inl rfl
  | some parent =>
      dsimp only
      split
      · exact .inl rfl
      · rename_i hparent
        exact .inr ⟨parent, rfl, hparent, rfl⟩

theorem Symbol.lastComponent_qualifiedName {s : Symbol} (simple : IsSimpleName s.name) :
    lastComponent s.qualifiedName = s.name := by
  rcases s.qualifiedName_cases with h | ⟨parent, -, -, h⟩
  · rw [h, lastComponent_of_notMem simple.1]
  · rw [h, lastComponent_append parent simple.1]

/-- The simple name of a definition can be read off its ID. -/
theorem simpleName_symbolId (file : SourceFile) {s : Symbol} (simple : IsSimpleName s.name) :
    simpleName (file.symbolId s) = s.name := by
  rcases s.qualifiedName_cases with h | ⟨parent, -, -, h⟩
  · rw [SourceFile.symbolId, makeId, h]
    exact Text.afterLast_of_append (file.path.toList ++ [':']) (c := ':') (by simp) rfl
      simple.divides_eq_false
  · rw [SourceFile.symbolId, makeId, h, ← String.append_assoc, ← String.append_assoc]
    exact simpleName_append _ simple

/-- All definitions of files in order, each with its file. -/
def definitions (files : List SourceFile) : List (SourceFile × Symbol) :=
  files.flatMap fun file => file.symbols.map fun s => (file, s)

theorem mem_definitions {files : List SourceFile} {d : SourceFile × Symbol} :
    d ∈ definitions files ↔ d.1 ∈ files ∧ d.2 ∈ d.1.symbols := by
  obtain ⟨file, s⟩ := d
  simp [definitions]

/-- A symbol of a file is the last definition of an ID. -/
def LastDefinition (files : List SourceFile) (id : String) (file : SourceFile) (s : Symbol) :
    Prop :=
  ∃ before after, definitions files = before ++ (file, s) :: after ∧ file.symbolId s = id ∧
    ∀ d ∈ after, d.1.symbolId d.2 ≠ id

namespace LastDefinition

variable {files : List SourceFile} {id : String} {file : SourceFile} {s : Symbol}

theorem mem (last : LastDefinition files id file s) : file ∈ files ∧ s ∈ file.symbols := by
  obtain ⟨before, after, hsplit, -, -⟩ := last
  have hmem : (file, s) ∈ definitions files := by
    rw [hsplit]
    exact List.mem_append_right _ List.mem_cons_self
  exact mem_definitions.1 hmem

/-- The name of the last definition of an ID can be read off the ID. -/
theorem simpleName_eq (simple : ∀ file ∈ files, ∀ s ∈ file.symbols, IsSimpleName s.name)
    (last : LastDefinition files id file s) : s.name = simpleName id := by
  obtain ⟨hfile, hs⟩ := last.mem
  obtain ⟨-, -, -, rfl, -⟩ := last
  exact (simpleName_symbolId file (simple file hfile s hs)).symm

end LastDefinition

namespace SymbolTable

def entryOf (d : SourceFile × Symbol) : TableEntry := ⟨d.1.symbolId d.2, d.2, d.1.path⟩

theorem entries_ofFiles (files : List SourceFile) :
    (ofFiles files).entries = (definitions files).map entryOf := by
  simp [ofFiles, definitions, entryOf, List.map_flatMap, Function.comp_def]

theorem mem_entries_ofFiles {files : List SourceFile} {e : TableEntry} :
    e ∈ (ofFiles files).entries ↔ ∃ file ∈ files, ∃ s ∈ file.symbols, e = entryOf (file, s) := by
  rw [entries_ofFiles, List.mem_map]
  constructor
  · rintro ⟨d, hd, rfl⟩
    exact ⟨d.1, (mem_definitions.1 hd).1, d.2, (mem_definitions.1 hd).2, rfl⟩
  · rintro ⟨file, hfile, s, hs, rfl⟩
    exact ⟨(file, s), mem_definitions.2 ⟨hfile, hs⟩, rfl⟩

/-- A table gives the last definition of an ID. -/
theorem entry?_ofFiles_eq_some_iff {files : List SourceFile} {id : String} {e : TableEntry} :
    entry? (ofFiles files) id = some e ↔
      ∃ file s, LastDefinition files id file s ∧ e = entryOf (file, s) := by
  rw [SymbolTable.entry?, entries_ofFiles, ← List.map_reverse, List.find?_map,
    Option.map_eq_some_iff]
  constructor
  · rintro ⟨⟨file, s⟩, hfind, rfl⟩
    obtain ⟨hid, after, before, hsplit, hafter⟩ := List.find?_eq_some_iff_append.1 hfind
    refine ⟨file, s, ⟨before.reverse, after.reverse, ?_, of_decide_eq_true hid, ?_⟩, rfl⟩
    · rw [← List.reverse_inj, hsplit]
      simp
    · intro d hd
      have hother := hafter d (List.mem_reverse.1 hd)
      rw [Bool.not_eq_true'] at hother
      exact of_decide_eq_false hother
  · rintro ⟨file, s, ⟨before, after, hsplit, hid, hafter⟩, rfl⟩
    refine ⟨(file, s), List.find?_eq_some_iff_append.2 ⟨decide_eq_true hid, after.reverse,
      before.reverse, by simp [hsplit], ?_⟩, rfl⟩
    intro d hd
    rw [Bool.not_eq_true']
    exact decide_eq_false (hafter d (List.mem_reverse.1 hd))

/-- Every ID of a table has a last definition. -/
theorem exists_entry {t : SymbolTable} {e : TableEntry} (h : e ∈ t.entries) :
    ∃ last, t.entry? e.id = some last := by
  refine Option.isSome_iff_exists.1 (List.find?_isSome.2 ⟨e, List.mem_reverse.2 h, ?_⟩)
  simp

end SymbolTable

/-- A symbol has a simple name, and the dotted name of the definitions around it holds no colon. -/
structure Symbol.WellNamed (s : Symbol) : Prop where
  simple : IsSimpleName s.name
  parent : ∀ p ∈ s.parent, ':' ∉ p.toList

instance (s : Symbol) : Decidable s.WellNamed :=
  decidable_of_iff (IsSimpleName s.name ∧ ∀ p ∈ s.parent, ':' ∉ p.toList)
    ⟨fun h => ⟨h.1, h.2⟩, fun h => ⟨h.simple, h.parent⟩⟩

theorem Symbol.WellNamed.colon_notMem {s : Symbol} (named : s.WellNamed) :
    ':' ∉ s.qualifiedName.toList := by
  rcases s.qualifiedName_cases with h | ⟨parent, hparent, -, h⟩
  · exact h ▸ named.simple.2
  · rw [h]
    simp [named.parent parent hparent, named.simple.2]

def WellNamed (files : List SourceFile) : Prop := ∀ file ∈ files, ∀ s ∈ file.symbols, s.WellNamed

instance (files : List SourceFile) : Decidable (WellNamed files) :=
  inferInstanceAs (Decidable (∀ file ∈ files, ∀ s ∈ file.symbols, s.WellNamed))

/-- The symbols that files with a path define, in order. -/
def symbolsAt (files : List SourceFile) (path : String) : List Symbol :=
  (files.filter fun file => file.path = path).flatMap (·.symbols)

theorem symbolsAt_eq (files : List SourceFile) (path : String) :
    symbolsAt files path = ((definitions files).filter fun d => d.1.path = path).map Prod.snd := by
  induction files with
  | nil => rfl
  | cons file files ih =>
      rw [definitions, List.flatMap_cons, List.filter_append, List.map_append, ← definitions, ← ih,
        symbolsAt, List.filter_cons]
      by_cases hpath : file.path = path
      · rw [if_pos (decide_eq_true hpath), List.flatMap_cons]
        simp [List.filter_map, Function.comp_def, hpath, symbolsAt]
      · rw [if_neg (mt of_decide_eq_true hpath)]
        simp [List.filter_map, Function.comp_def, hpath, symbolsAt]

namespace SymbolTable

variable {files : List SourceFile}

/-- The ID of a definition tells its file and its qualified name. -/
theorem symbolId_eq_iff (named : WellNamed files) {d : SourceFile × Symbol}
    (hd : d ∈ definitions files) {path q : String} (hq : ':' ∉ q.toList) :
    d.1.symbolId d.2 = makeId path q ↔ d.1.path = path ∧ d.2.qualifiedName = q := by
  obtain ⟨hfile, hs⟩ := mem_definitions.1 hd
  constructor
  · exact makeId_inj (named d.1 hfile d.2 hs).colon_notMem hq
  · rintro ⟨rfl, rfl⟩
    rfl

/-- The last definition of an ID is the last one with its name in its file. -/
theorem entry?_makeId (named : WellNamed files) (path : String) {q : String} (hq : ':' ∉ q.toList) :
    entry? (ofFiles files) (makeId path q) =
      ((symbolsAt files path).reverse.find? fun s => s.qualifiedName = q).map
        fun s => ⟨makeId path q, s, path⟩ := by
  have hfind : (definitions files).reverse.find? (fun d => d.1.symbolId d.2 = makeId path q) =
      (definitions files).reverse.find? fun d => d.1.path = path ∧ d.2.qualifiedName = q := by
    refine List.find?_congr fun d hd => ?_
    exact decide_eq_decide.2 (symbolId_eq_iff named (List.mem_reverse.1 hd) hq)
  rw [SymbolTable.entry?, entries_ofFiles, ← List.map_reverse, List.find?_map, symbolsAt_eq,
    ← List.map_reverse, ← List.filter_reverse, List.find?_map, List.find?_filter, Option.map_map]
  simp only [Function.comp_def, decide_eq_true_eq]
  refine (congrArg (Option.map entryOf) hfind).trans (Option.map_congr fun d hd => ?_)
  have hfound : d.1.path = path ∧ d.2.qualifiedName = q := by
    simpa using List.find?_some hd
  obtain ⟨rfl, rfl⟩ := hfound
  rfl

/-- All definitions of an ID stand in one file. -/
theorem path_of_entry? (named : WellNamed files) {e last : TableEntry}
    (he : e ∈ (ofFiles files).entries) (h : entry? (ofFiles files) e.id = some last) :
    last.path = e.path := by
  obtain ⟨file, hfile, s, hs, rfl⟩ := mem_entries_ofFiles.1 he
  have hentry := entry?_makeId named file.path (named file hfile s hs).colon_notMem
  obtain ⟨_, -, rfl⟩ := Option.map_eq_some_iff.1 (hentry.symm.trans h)
  rfl

end SymbolTable

end CallAtlas
