import CallAtlas.Proofs.Mentions

/-!
# Closed indexes

An index of files that have been read from texts speaks of no method that it does not hold.  What a
reference resolves to has a function or method as its last definition, and every function around a
reference is defined in the same file, so both are methods of the index.
-/

namespace CallAtlas.ProjectIndex

/-- An index holds a method with the given ID. -/
def Knows (index : ProjectIndex) (id : String) : Prop :=
  ∃ record, index.methods.lookup id = some record

/-- Whatever the index of some files speaks of is one of its methods. -/
structure Closed (files : List SourceFile) (index : ProjectIndex) : Prop where
  /-- Methods that are mentioned are known. -/
  mentioned : ∀ entry ∈ index.sites, index.Knows entry.1
  /-- Methods that mention others are known, and so are those that they mention. -/
  calls : ∀ call ∈ index.calls, index.Knows call.1 ∧ index.Knows call.2
  /-- Functions around the references of the files are known. -/
  enclosing : ∀ file ∈ files, ∀ ref ∈ file.references, ∀ id ∈ ref.enclosing, index.Knows id
  /-- The callees of a method can all be looked up, whether or not it is known itself. -/
  callees : ∀ m, ∀ t ∈ index.calleesOf m, index.Knows t
  /-- Every site keeps all functions around its reference. -/
  sites_eq : index.sites = files.flatMap fun file => file.references.flatMap fun ref =>
    ((SymbolTable.ofFiles files).resolve ref.target (some file.path) ref.enclosingClass).map
      fun t => (t, siteOf file ref)
  /-- The methods around a site belong to the file of the site. -/
  filePath_eq : ∀ entry ∈ index.sites, ∀ id ∈ entry.2.enclosing,
    ∃ record, index.methods.lookup id = some record ∧ record.filePath = entry.2.filePath

theorem exists_lookup {α : Type} {entries : List (String × α)} {key : String} {value : α}
    (h : (key, value) ∈ entries) : ∃ value', entries.lookup key = some value' := by
  cases hlookup : entries.lookup key with
  | none => exact absurd (List.lookup_eq_none_iff.1 hlookup _ h) (by simp)
  | some value' => exact ⟨value', rfl⟩

section

variable {files : List SourceFile} {file : SourceFile}

theorem knows_of_enclosing (wellFormed : ∀ file ∈ files, file.WellFormed) (hfile : file ∈ files)
    {ref : Reference} (href : ref ∈ file.references) {id : String} (hid : id ∈ ref.enclosing) :
    ∃ record, (ofFiles files).methods.lookup id = some record ∧ record.filePath = file.path := by
  obtain ⟨⟨_, hindexed⟩, hpath⟩ := indexed_of_enclosing wellFormed hfile href hid
  obtain ⟨record, hrecord⟩ := exists_lookup hindexed
  exact ⟨record, hrecord, hpath record (mem_of_lookup hrecord)⟩

theorem knows_of_resolve {target t : String} {path cls : Option String}
    (h : t ∈ (SymbolTable.ofFiles files).resolve target path cls) : (ofFiles files).Knows t := by
  obtain ⟨_, hindexed⟩ := indexed_of_resolve h
  exact exists_lookup hindexed

/-- The index of files that have been read from texts is closed. -/
theorem ofFiles_closed
    (parsed : ∀ file ∈ files, ∃ text, SourceFile.parse file.path text = .ok (some file)) :
    Closed files (ofFiles files) := by
  have wellFormed : ∀ file ∈ files, file.WellFormed := by
    intro file hfile
    obtain ⟨text, htext⟩ := parsed file hfile
    exact wellFormed_of_parse htext
  have henclosing : ∀ file ∈ files, ∀ ref ∈ file.references, ∀ id ∈ ref.enclosing,
      (ofFiles files).Knows id := by
    intro file hfile ref href id hid
    obtain ⟨record, hrecord, -⟩ := knows_of_enclosing wellFormed hfile href hid
    exact ⟨record, hrecord⟩
  have hsite : ∀ entry ∈ (ofFiles files).sites, ∃ file ∈ files, ∃ ref ∈ file.references,
      entry.1 ∈ (SymbolTable.ofFiles files).resolve ref.target (some file.path) ref.enclosingClass ∧
      entry.2 = siteOf file ref := by
    intro entry hentry
    rw [sites_eq wellFormed] at hentry
    obtain ⟨file, hfile, hentry⟩ := List.mem_flatMap.1 hentry
    obtain ⟨ref, href, hentry⟩ := List.mem_flatMap.1 hentry
    obtain ⟨t, ht, rfl⟩ := List.mem_map.1 hentry
    exact ⟨file, hfile, ref, href, ht, rfl⟩
  refine ⟨?_, ?_, henclosing, ?_, sites_eq wellFormed, ?_⟩
  · intro entry hentry
    obtain ⟨file, -, ref, -, ht, -⟩ := hsite entry hentry
    exact knows_of_resolve ht
  · rintro ⟨m, t⟩ hcall
    obtain ⟨file, hfile, ref, href, hm, ht⟩ := mem_calls.1 hcall
    exact ⟨henclosing file hfile ref href m (List.mem_of_mem_head? hm), knows_of_resolve ht⟩
  · intro m t ht
    obtain ⟨file, -, ref, -, -, ht⟩ := mem_calleesOf.1 ht
    exact knows_of_resolve ht
  · intro entry hentry id hid
    obtain ⟨file, hfile, ref, href, -, hsite⟩ := hsite entry hentry
    rw [hsite] at hid ⊢
    exact knows_of_enclosing wellFormed hfile href hid

end

/-- A function whose name is taken over by a class, which is mentioned in its own constructor. -/
def redefinedFile : SourceFile where
  path := "a.py"
  symbols := [
    ⟨"f", .function, 1, 2, some "def f()", none⟩,
    ⟨"f", .classType, 3, 5, some "class f", none⟩,
    ⟨"__init__", .method, 4, 5, some "def __init__(self)", some "f"⟩]
  references := [⟨"a.py::f.__init__", "f", .calls, 5, ["a.py::f.__init__"], some "f"⟩]

/-- The mention of the class is one of its constructor, which the index holds. -/
theorem ofFiles_closed_redefined :
    SourceFile.parse "a.py" "def f():\n  pass\nclass f:\n  def __init__(self):\n    f()\n" =
      .ok (some redefinedFile) ∧
    (ofFiles [redefinedFile]).calls = [("a.py::f.__init__", "a.py::f.__init__")] ∧
    Closed [redefinedFile] (ofFiles [redefinedFile]) := by
  have hparse : SourceFile.parse "a.py"
      "def f():\n  pass\nclass f:\n  def __init__(self):\n    f()\n" = .ok (some redefinedFile) :=
    eq_ok_of_toOption (by decide +kernel)
  refine ⟨hparse, by decide +kernel, ofFiles_closed fun file hfile => ?_⟩
  obtain rfl := List.mem_singleton.1 hfile
  exact ⟨_, hparse⟩

end CallAtlas.ProjectIndex
