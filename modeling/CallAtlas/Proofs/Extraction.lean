import CallAtlas.Proofs.Computation
import CallAtlas.Proofs.Findings
import Mathlib.Data.List.Induction

/-!
# Symbols of a source text

The functions around a reference of a file are symbols of the same file.  No name of a symbol holds
a colon, so the ID of a symbol tells its file.
-/

namespace CallAtlas

open Source

theorem Source.Ident.colon_notMem (name : Ident) : ':' ∉ name.text.toList := by
  obtain ⟨text, valid⟩ := name
  intro hmem
  have hstart : Text.isIdentifierStart ':' = false := by decide
  have hpart : Text.isIdentifierPart ':' = false := by decide
  cases hchars : text.toList with
  | nil =>
      rw [hchars] at hmem
      cases hmem
  | cons c rest =>
      rw [hchars] at hmem valid
      obtain ⟨hc, hrest⟩ := Bool.and_eq_true_iff.1 valid
      rcases List.mem_cons.1 hmem with rfl | hmem
      · exact Bool.false_ne_true (hstart.symm.trans hc)
      · exact Bool.false_ne_true (hpart.symm.trans (List.all_eq_true.1 hrest _ hmem))

theorem Source.Ident.text_ne_empty (name : Ident) : name.text ≠ "" := by
  obtain ⟨text, valid⟩ := name
  rintro rfl
  cases valid

theorem Source.Ident.dotted_append (names : List Ident) (hnames : names ≠ []) (name : Ident) :
    Ident.dotted (names ++ [name]) = Ident.dotted names ++ "." ++ name.text := by
  unfold Ident.dotted
  rw [List.map_append, String.intercalate_append_of_ne_nil (by simpa using hnames) (by simp)]
  simp

theorem Source.Ident.colon_notMem_dotted (names : List Ident) :
    ':' ∉ (Ident.dotted names).toList := by
  induction names using List.reverseRecOn with
  | nil => simp [Ident.dotted]
  | append_singleton names name ih =>
      by_cases hnames : names = []
      · subst hnames
        simpa [Ident.dotted] using name.colon_notMem
      · rw [Ident.dotted_append names hnames]
        simp [ih, name.colon_notMem]

theorem Source.Ident.dotted_ne_empty {names : List Ident} (hnames : names ≠ []) :
    Ident.dotted names ≠ "" := by
  obtain ⟨first, rest, rfl⟩ := List.exists_cons_of_ne_nil hnames
  cases rest with
  | nil => simpa [Ident.dotted] using first.text_ne_empty
  | cons second rest =>
      rw [Ident.dotted, List.map_cons, List.map_cons, String.intercalate_cons_cons]
      simp [first.text_ne_empty]

/-- The qualified name of a definition is the dotted path that ends with it. -/
theorem qualify_parentName (frames : List Frame) (f : Frame) :
    qualify (parentName frames) f.name.text = Ident.dotted (Frame.path (f :: frames)) := by
  cases frames with
  | nil => simp [parentName, qualify, Frame.path, Ident.dotted]
  | cons outer frames =>
      have hpath : Frame.path (outer :: frames) ≠ [] := by simp [Frame.path]
      have happend : Frame.path (f :: outer :: frames) = Frame.path (outer :: frames) ++ [f.name] := by
        simp [Frame.path]
      rw [happend, Ident.dotted_append _ hpath]
      simp [parentName, qualify, Ident.dotted_ne_empty hpath]

/-- The first occurrence of an element divides a list in one way. -/
theorem append_cons_inj {a : Char} {x x' z z' : List Char} (hx : a ∉ x) (hx' : a ∉ x')
    (h : x ++ a :: z = x' ++ a :: z') : x = x' ∧ z = z' := by
  induction x generalizing x' with
  | nil =>
      cases x' with
      | nil => exact ⟨rfl, (List.cons.inj h).2⟩
      | cons b x' => exact absurd ((List.cons.inj h).1 ▸ List.mem_cons_self) hx'
  | cons b x ih =>
      cases x' with
      | nil => exact absurd ((List.cons.inj h).1 ▸ List.mem_cons_self) hx
      | cons b' x' =>
          obtain ⟨rfl, htail⟩ := List.cons.inj h
          obtain ⟨rfl, rfl⟩ := ih (fun hmem => hx (List.mem_cons_of_mem _ hmem))
            (fun hmem => hx' (List.mem_cons_of_mem _ hmem)) htail
          exact ⟨rfl, rfl⟩

/-- Names without colons can be taken off an ID. -/
theorem makeId_inj {path path' name name' : String} (hname : ':' ∉ name.toList)
    (hname' : ':' ∉ name'.toList) (h : makeId path name = makeId path' name') :
    path = path' ∧ name = name' := by
  have h := congrArg (List.reverse ∘ String.toList) h
  simp only [makeId, Function.comp_apply, String.toList_append, List.reverse_append] at h
  obtain ⟨hnames, hpaths⟩ := append_cons_inj (a := ':') (by simpa using hname)
    (by simpa using hname') h
  refine ⟨?_, ?_⟩
  · exact String.toList_injective (List.reverse_injective (List.cons.inj hpaths).2)
  · exact String.toList_injective (List.reverse_injective hnames)

/-- The symbol for a definition has its name, and the dotted path that ends with it as its qualified
name. -/
theorem ofDefinition_ok {frames : List Frame} {head : Head} {s : Symbol} (kind : FrameKind)
    (h : Symbol.ofDefinition frames head = .ok s) :
    s.kind = symbolKind frames head ∧
      s.qualifiedName = Ident.dotted (Frame.path (⟨kind, head.name⟩ :: frames)) := by
  unfold Symbol.ofDefinition at h
  cases hsignature : head.signature with
  | error e =>
      rw [hsignature] at h
      cases h
  | ok signature =>
      rw [hsignature] at h
      obtain rfl := Except.ok.inj h
      exact ⟨rfl, qualify_parentName frames ⟨kind, head.name⟩⟩

theorem isCallable_of_kind {frames : List Frame} {head : FunctionHead} {s : Symbol}
    (h : s.kind = symbolKind frames (.function head)) : s.isCallable = true := by
  unfold Symbol.isCallable
  rw [h]
  unfold symbolKind
  cases frames with
  | nil => rfl
  | cons f frames =>
      dsimp only
      split <;> rfl

/-- What holds of every file that has been read. -/
structure SourceFile.WellFormed (file : SourceFile) : Prop where
  /-- The functions around a reference are symbols of the file. -/
  enclosing : ∀ ref ∈ file.references, ∀ id ∈ ref.enclosing,
    ∃ s ∈ file.symbols, s.isCallable = true ∧ file.symbolId s = id
  /-- No name of a symbol holds a colon. -/
  colon_notMem : ∀ s ∈ file.symbols, ':' ∉ s.qualifiedName.toList

theorem symbolsOf_ok {found : List Finding} {symbols : List Symbol}
    (h : symbolsOf found = .ok symbols) :
    (∀ frames head, .definition frames head ∈ found →
      ∃ s ∈ symbols, Symbol.ofDefinition frames head = .ok s) ∧
    ∀ s ∈ symbols, ∃ frames head, Symbol.ofDefinition frames head = .ok s := by
  have hsymbols := mapM_ok h
  constructor
  · intro frames head hdef
    exact exists_right_of_forall₂ hsymbols (x := (frames, head)) (List.mem_filterMap.2 ⟨_, hdef, rfl⟩)
  · intro s hs
    obtain ⟨⟨frames, head⟩, -, heq⟩ := exists_right_of_forall₂ hsymbols.flip hs
    exact ⟨frames, head, heq⟩

theorem mem_referencesOf {path : String} {found : List Finding} {ref : Reference} :
    ref ∈ referencesOf path found ↔
      ∃ frames o, .reference frames o ∈ found ∧ ref = Reference.ofOccurrence path frames o := by
  unfold referencesOf
  rw [List.mem_filterMap]
  constructor
  · rintro ⟨⟨frames, head⟩ | ⟨frames, o⟩, hmem, heq⟩
    · cases heq
    · exact ⟨frames, o, hmem, (Option.some.inj heq).symm⟩
  · rintro ⟨frames, o, hmem, rfl⟩
    exact ⟨_, hmem, rfl⟩

theorem wellFormed_of_ofModule {path : String} {body : List Stmt} {file : SourceFile}
    (h : SourceFile.ofModule path body = .ok file) : file.WellFormed := by
  unfold SourceFile.ofModule at h
  cases hsymbols : symbolsOf (moduleFindings body) with
  | error e =>
      simp only [hsymbols] at h
      cases h
  | ok symbols =>
      simp only [hsymbols] at h
      obtain rfl := Except.ok.inj h
      obtain ⟨hdefined, horigin⟩ := symbolsOf_ok hsymbols
      constructor
      · intro ref href id hid
        obtain ⟨frames, o, ho, rfl⟩ := mem_referencesOf.1 href
        obtain ⟨p, hp, rfl⟩ := List.mem_map.1 hid
        obtain ⟨frames', head, hdef, rfl⟩ := definesFunction_of_reference ho hp
        obtain ⟨s, hs, heq⟩ := hdefined frames' (.function head) hdef
        obtain ⟨hkind, hname⟩ := ofDefinition_ok .function heq
        exact ⟨s, hs, isCallable_of_kind hkind, congrArg (makeId path) hname⟩
      · intro s hs
        obtain ⟨frames, head, heq⟩ := horigin s hs
        rw [(ofDefinition_ok .function heq).2]
        exact Ident.colon_notMem_dotted _

/-- Files that are read from a text are well formed. -/
theorem wellFormed_of_parse {path text : String} {file : SourceFile}
    (h : SourceFile.parse path text = .ok (some file)) : file.WellFormed := by
  unfold SourceFile.parse at h
  split at h
  · rename_i body _
    cases hmodule : SourceFile.ofModule path body with
    | error e =>
        rw [hmodule] at h
        cases h
    | ok file' =>
        rw [hmodule] at h
        obtain rfl := Option.some.inj (Except.ok.inj h)
        exact wellFormed_of_ofModule hmodule
  · cases h

end CallAtlas
