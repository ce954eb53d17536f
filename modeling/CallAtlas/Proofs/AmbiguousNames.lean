import CallAtlas.Proofs.Resolution

/-!
# Ambiguous names

A dotted name that no definition bears can only be resolved by its last component.  Unless it starts
with `self` or `cls`, it must then be unambiguous: it is resolved to at most one function or method,
and to none if two of them share the last component.  A chain of three or more components that starts
with `self` or `cls` is resolved like its last component alone, however many share it.
-/

namespace CallAtlas

/-- Two different functions or methods that a simple name may denote. -/
def Ambiguous (files : List SourceFile) (name : String) : Prop :=
  ∃ a b, a ≠ b ∧ Denoted files name a ∧ Denoted files name b

def Undefined (files : List SourceFile) (name : String) : Prop :=
  ∀ file ∈ files, ∀ s ∈ file.symbols, s.qualifiedName ≠ name

instance (files : List SourceFile) (name : String) : Decidable (Undefined files name) :=
  inferInstanceAs (Decidable (∀ file ∈ files, ∀ s ∈ file.symbols, s.qualifiedName ≠ name))

namespace SymbolTable

/-- A dotted name other than `self.x` and `cls.x` such that no symbol has it as its qualified name,
nor the last two of its components if there are more. -/
structure Unmatched (files : List SourceFile) (target : String) : Prop where
  dotted : 1 < (Text.split '.' target).length
  notMember : ∀ receiver ∈ selfReceivers, ∀ name, Text.split '.' target ≠ [receiver, name]
  exact : Undefined files target
  pair : ∀ start a b, Text.split '.' target = start ++ [a, b] → start ≠ [] →
    Undefined files (a ++ "." ++ b)

section

variable {files : List SourceFile} {target : String} {file cls : Option String}

theorem withQualifiedName_of_undefined {name : String} (h : Undefined files name) :
    (ofFiles files).withQualifiedName name = [] := by
  refine List.eq_nil_iff_forall_not_mem.2 fun id hid => ?_
  obtain ⟨e, he, hname, -⟩ := mem_withQualifiedName.1 hid
  obtain ⟨file, hfile, s, hs, rfl⟩ := mem_entries_ofFiles.1 he
  exact h file hfile s hs hname

theorem Unmatched.memberCandidates (h : Unmatched files target) :
    (ofFiles files).memberCandidates (Text.split '.' target) file cls = [] := by
  have hnone : memberName? (Text.split '.' target) cls = none := by
    refine Option.eq_none_iff_forall_not_mem.2 fun q hq => ?_
    obtain ⟨receiver, hself, name, -, hparts, -⟩ := memberName?_eq_some_iff.1 hq
    exact h.notMember receiver hself name hparts
  rw [memberCandidates_eq, hnone]

theorem Unmatched.pairCandidates (h : Unmatched files target) :
    (ofFiles files).pairCandidates (Text.split '.' target) = [] := by
  unfold SymbolTable.pairCandidates
  generalize hparts : Text.split '.' target = parts
  split
  · rename_i hlength
    have htwo : (parts.drop (parts.length - 2)).length = 2 := by
      rw [List.length_drop]
      omega
    obtain ⟨a, b, hpair⟩ := List.length_eq_two.1 htwo
    have hsplit : parts = parts.take (parts.length - 2) ++ [a, b] := by
      rw [← hpair, List.take_append_drop]
    have hstart : parts.take (parts.length - 2) ≠ [] := by
      intro hnil
      have hempty := congrArg List.length hnil
      rw [List.length_take, List.length_nil] at hempty
      omega
    rw [hpair, String.intercalate_cons_cons, String.intercalate_singleton]
    exact withQualifiedName_of_undefined (h.pair _ a b (hparts.trans hsplit) hstart)
  · rfl

/-- The last component is all that is left of a name that no definition bears. -/
theorem Unmatched.candidates (h : Unmatched files target) :
    (ofFiles files).candidates target file cls =
      (ofFiles files).nameCandidates (Text.split '.' target) := by
  unfold SymbolTable.candidates
  dsimp only
  rw [h.memberCandidates, withQualifiedName_of_undefined h.exact, h.pairCandidates]
  exact firstNonempty_concat [[], [], []] _

theorem nameCandidates_of_self {t : SymbolTable} {parts : List String}
    (h : parts.headD "" ∈ selfReceivers) :
    t.nameCandidates parts = t.withName (parts.getLastD "") :=
  if_pos (.inr (.inl h))

/-- Without `self` or `cls` in front, the candidates denote one function or method, or there are
none. -/
theorem nameCandidates_of_dotted {t : SymbolTable} {parts : List String} (hdotted : 1 < parts.length)
    (hself : parts.headD "" ∉ selfReceivers) :
    t.nameCandidates parts = [] ∨
      (t.callables (t.withName (parts.getLastD ""))).length = 1 ∧
        t.nameCandidates parts = t.withName (parts.getLastD "") := by
  by_cases hone : (t.callables (t.withName (parts.getLastD ""))).length = 1
  · exact .inr ⟨hone, if_pos (.inr (.inr hone))⟩
  · refine .inl (if_neg ?_)
    rintro (hlength | hin | hone')
    · omega
    · exact hself hin
    · exact hone hone'

/-- A function or method that a simple name may denote is among those that the definitions with this
name denote. -/
theorem mem_callables_of_denoted {name id : String} (h : Denoted files name id) :
    id ∈ (ofFiles files).callables ((ofFiles files).withName name) := by
  have found : ∀ {id : String} {file : SourceFile} {s : Symbol}, LastDefinition files id file s →
      entry? (ofFiles files) id = some (entryOf (file, s)) ∧
        id ∈ (ofFiles files).withName s.name := by
    intro id file s last
    obtain ⟨hfile, hs⟩ := last.mem
    refine ⟨entry?_ofFiles_eq_some_iff.2 ⟨file, s, last, rfl⟩, mem_withName.2 ?_⟩
    obtain ⟨-, -, -, hid, -⟩ := last
    exact ⟨entryOf (file, s), mem_entries_ofFiles.2 ⟨file, hfile, s, hs, rfl⟩, rfl, hid⟩
  rw [mem_callables]
  cases h with
  | named last callable named =>
      obtain ⟨hentry, hname⟩ := found last
      exact ⟨id, named ▸ hname, callable?_eq_some_iff.2 (.inl ⟨_, hentry, callable, rfl⟩)⟩
  | @constructor owner _ _ s init last classType named lastInit callable _ =>
      obtain ⟨hentry, hname⟩ := found last
      have hinit : constructorId owner = owner ++ ".__init__" := String.append_assoc
      refine ⟨owner, named ▸ hname, callable?_eq_some_iff.2 (.inr ⟨_, _, hentry, ?_, hinit.symm,
        (found lastInit).1, callable⟩)⟩
      exact Symbol.isCallable_eq_false_iff.2 classType

theorem length_ne_one_of_ambiguous {name : String} (h : Ambiguous files name) :
    ((ofFiles files).callables ((ofFiles files).withName name)).length ≠ 1 := by
  intro hone
  obtain ⟨only, honly⟩ := List.length_eq_one_iff.1 hone
  obtain ⟨a, b, hne, ha, hb⟩ := h
  have ha := mem_callables_of_denoted ha
  have hb := mem_callables_of_denoted hb
  rw [honly, List.mem_singleton] at ha hb
  exact hne (ha.trans hb.symm)

/-- The preference for a file leaves no more functions and methods than there were. -/
theorem length_callables_prefer_le (t : SymbolTable) (file : Option String) (ids : List String) :
    (t.callables (t.prefer file ids)).length ≤ (t.callables ids).length := by
  refine ((t.nodup_callables _).subperm fun m hm => ?_).length_le
  obtain ⟨id, hid, hdenotes⟩ := mem_callables.1 hm
  exact mem_callables.2 ⟨id, mem_of_mem_prefer hid, hdenotes⟩

theorem resolve_of_nameCandidates_eq_nil (h : Unmatched files target)
    (hnone : (ofFiles files).nameCandidates (Text.split '.' target) = []) :
    (ofFiles files).resolve target file cls = [] := by
  rw [resolve_eq_prefer, h.candidates, hnone]
  cases file <;> rfl

/-- A dotted name that no definition bears is resolved to at most one function or method, and to none
if its last component is ambiguous, unless it starts with `self` or `cls`.  If it does, it is resolved
to all functions and methods that its last component may denote, those of the referencing file if
there are candidates in it. -/
theorem resolve_by_simple_name (files : List SourceFile) {target : String}
    (unmatched : Unmatched files target) (file cls : Option String) :
    ((Text.split '.' target).headD "" ∉ selfReceivers →
      ((ofFiles files).resolve target file cls).length ≤ 1 ∧
      (Ambiguous files (lastComponent target) → (ofFiles files).resolve target file cls = [])) ∧
    ((Text.split '.' target).headD "" ∈ selfReceivers →
      (ofFiles files).resolve target file cls = (ofFiles files).callables
        ((ofFiles files).prefer file ((ofFiles files).withName (lastComponent target)))) := by
  constructor
  · intro hself
    rcases nameCandidates_of_dotted (t := ofFiles files) unmatched.dotted hself with
      hnone | ⟨hone, hnamed⟩
    · have hresolve : (ofFiles files).resolve target file cls = [] :=
        resolve_of_nameCandidates_eq_nil unmatched hnone
      exact ⟨hresolve ▸ Nat.zero_le 1, fun _ => hresolve⟩
    · rw [getLastD_split] at hone hnamed
      refine ⟨?_, fun ambiguous => absurd hone (length_ne_one_of_ambiguous ambiguous)⟩
      rw [resolve_eq_prefer, unmatched.candidates, hnamed, ← hone]
      exact length_callables_prefer_le _ _ _
  · intro hself
    rw [resolve_eq_prefer, unmatched.candidates, nameCandidates_of_self hself, getLastD_split]

def twoStores : List SourceFile :=
  [⟨"a.py", [⟨"A", .classType, 1, 3, none, none⟩, ⟨"save", .method, 2, 3, none, some "A"⟩], []⟩,
    ⟨"b.py", [⟨"B", .classType, 1, 3, none, none⟩, ⟨"save", .method, 2, 3, none, some "B"⟩], []⟩]

theorem twoStores_ambiguous : Ambiguous twoStores "save" := by
  refine ⟨"a.py::A.save", "b.py::B.save", by decide, ?_, ?_⟩
  · exact .named ⟨[_], [_, _], rfl, by decide +kernel, by decide +kernel⟩ rfl rfl
  · exact .named ⟨[_, _, _], [], rfl, by decide +kernel, by decide +kernel⟩ rfl rfl

/-- A method that both classes have is not looked for behind a name that tells neither of them. -/
theorem resolve_by_simple_name_unknownReceiver :
    Unmatched twoStores "repo.save" ∧ Ambiguous twoStores "save" ∧
      (ofFiles twoStores).resolve "repo.save" (some "a.py") none = [] := by
  have hparts : Text.split '.' "repo.save" = ["repo", "save"] := by decide +kernel
  have hlast : lastComponent "repo.save" = "save" := by decide +kernel
  have unmatched : Unmatched twoStores "repo.save" := by
    refine ⟨by rw [hparts]; decide, ?_, by decide +kernel, ?_⟩
    · rintro receiver hself name h
      rw [hparts, List.cons.injEq] at h
      exact absurd (h.1 ▸ hself) (by decide)
    · intro start a b h hstart
      have hlength := congrArg List.length (hparts.symm.trans h)
      rw [List.length_append] at hlength
      exact absurd (List.length_eq_zero_iff.1 (by simpa using hlength)) hstart
  refine ⟨unmatched, twoStores_ambiguous, ?_⟩
  refine ((resolve_by_simple_name twoStores unmatched (some "a.py") none).1 ?_).2 ?_
  · rw [hparts]
    decide
  · exact hlast ▸ twoStores_ambiguous

/-- Behind a chain that starts with `self` it is looked for everywhere, so such a chain can be resolved
to several methods although its last component is ambiguous. -/
theorem resolve_self_chain_ambiguous :
    (ofFiles twoStores).resolve "self.repo.save" none none = ["a.py::A.save", "b.py::B.save"] ∧
    ¬ ∀ (files : List SourceFile) (target : String) (file cls : Option String),
      Unmatched files target → ((ofFiles files).resolve target file cls).length ≤ 1 ∧
        (Ambiguous files (lastComponent target) → (ofFiles files).resolve target file cls = []) := by
  have hresolve : (ofFiles twoStores).resolve "self.repo.save" none none =
      ["a.py::A.save", "b.py::B.save"] := by
    decide +kernel
  have hparts : Text.split '.' "self.repo.save" = ["self", "repo", "save"] := by decide +kernel
  have unmatched : Unmatched twoStores "self.repo.save" := by
    refine ⟨by rw [hparts]; decide, fun receiver _ name => by rw [hparts]; simp, by decide +kernel, ?_⟩
    intro start a b h _
    have hsplit : ["self"] ++ ["repo", "save"] = start ++ [a, b] := hparts.symm.trans h
    obtain ⟨rfl, rfl⟩ : "repo" = a ∧ "save" = b := by
      simpa using (List.append_inj' hsplit rfl).2
    decide +kernel
  refine ⟨hresolve, fun claimed => ?_⟩
  have hlength := (claimed twoStores "self.repo.save" none none unmatched).1
  rw [hresolve] at hlength
  exact absurd hlength (by decide)

end

end SymbolTable

end CallAtlas
