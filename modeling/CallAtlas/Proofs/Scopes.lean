import CallAtlas.Proofs.Chains
import CallAtlas.Proofs.Extraction

/-!
# Scopes

The definitions around a place are those whose bodies hold it.  They give the path of a definition, and
they are what a symbol or a reference records of its scope: the parent of a symbol, and the functions
and the nearest class around a reference.
-/

namespace CallAtlas.Source

def Head.kind : Head → FrameKind
  | .function _ => .function
  | .classType _ => .classType

namespace Place

/-- The names of the definitions around a place, outermost first. -/
def scopePath (p : Place) : List Ident :=
  ((p.around.filterMap head?).map Head.name).reverse

/-- The path of the definition at a place: the names of the definitions around it and its own. -/
def qualifiedPath (d : Place) : List Ident :=
  d.scopePath ++ (d.head?.map Head.name).toList

/-- Whether a definition of the given kind stands at a place. -/
def hasKind (kind : FrameKind) (d : Place) : Bool :=
  d.head?.any fun head => head.kind = kind

theorem hasKind_iff {kind : FrameKind} {d : Place} {head : Head} (hhead : d.head? = some head) :
    d.hasKind kind = true ↔ head.kind = kind := by
  rw [hasKind, hhead]
  simp

theorem frame?_eq (p : Place) : p.frame? = p.head?.map fun head => ⟨head.kind, head.name⟩ := by
  unfold frame? head?
  cases p.part with
  | stmt t => cases t <;> rfl
  | expr e => rfl

/-- Only definitions have bodies. -/
theorem exists_head_of_isIn {body : List Stmt} {outer : Place} {index : Nat} {part : Part}
    (h : (inside outer index .body part).IsIn body) : ∃ head, outer.head? = some head := by
  have hslot := List.mem_of_getElem? h.2
  unfold head?
  cases hpart : outer.part with
  | expr e =>
      rw [hpart] at hslot
      exact absurd rfl (Expr.mem_slots hslot).1.1
  | stmt t =>
      rw [hpart] at hslot
      cases hhead : t.head? with
      | none =>
          rw [Part.slots, Stmt.slots_of_head?_eq_none hhead] at hslot
          obtain ⟨part', -, heq⟩ := List.mem_map.1 hslot
          cases heq
      | some head => exact ⟨head, hhead⟩

/-- Induction over the definitions around a place of a module, with their frames. -/
theorem induction_around {body : List Stmt} {motive : List Frame → List Place → Prop}
    (nil : motive [] [])
    (cons : ∀ d head, d.head? = some head → motive d.frames d.around →
      motive (⟨head.kind, head.name⟩ :: d.frames) (d :: d.around))
    {p : Place} (hp : p.IsIn body) : motive p.frames p.around := by
  induction p with
  | top index s => exact nil
  | inside outer index role part ih =>
      by_cases hrole : role = .body
      · subst hrole
        obtain ⟨head, hhead⟩ := exists_head_of_isIn hp
        rw [frames_inside_body, frame?_eq, hhead, around, if_pos rfl]
        exact cons outer head hhead (ih hp.1)
      · rw [frames_inside hrole, around, if_neg hrole]
        exact ih hp.1

theorem path_frames (p : Place) : Frame.path p.frames = p.scopePath := by
  have hname : ∀ d : Place, (d.frame?.map fun f => f.name) = d.head?.map Head.name := by
    intro d
    rw [frame?_eq, Option.map_map]
    rfl
  rw [Frame.path, frames, scopePath, List.map_filterMap, List.map_filterMap]
  simp only [hname]

theorem path_cons_frames {d : Place} {head : Head} (hhead : d.head? = some head)
    (kind : FrameKind) : Frame.path (⟨kind, head.name⟩ :: d.frames) = d.qualifiedPath := by
  rw [qualifiedPath, ← path_frames, hhead]
  simp [Frame.path]

/-- The functions around a place, innermost first. -/
theorem functions_frames {body : List Stmt} {p : Place} (hp : p.IsIn body) :
    Frame.functions p.frames = (p.around.filter (hasKind .function)).map qualifiedPath := by
  refine induction_around (motive := fun frames around =>
    Frame.functions frames = (around.filter (hasKind .function)).map qualifiedPath) rfl ?_ hp
  intro d head hhead ih
  by_cases hkind : head.kind = .function
  · simp [Frame.functions, hasKind, hhead, hkind, ih, path_cons_frames hhead]
  · simp [Frame.functions, hasKind, hhead, hkind, ih]

/-- The nearest class around a place. -/
theorem nearestClass_frames {body : List Stmt} {p : Place} (hp : p.IsIn body) :
    Frame.nearestClass p.frames = (p.around.find? (hasKind .classType)).map qualifiedPath := by
  refine induction_around (motive := fun frames around =>
    Frame.nearestClass frames = (around.find? (hasKind .classType)).map qualifiedPath) rfl ?_ hp
  intro d head hhead ih
  by_cases hkind : head.kind = .classType
  · simp [Frame.nearestClass, hasKind, hhead, hkind, path_cons_frames hhead]
  · simp [Frame.nearestClass, hasKind, hhead, hkind, ih]

theorem frames_eq_nil_iff {body : List Stmt} {p : Place} (hp : p.IsIn body) :
    p.frames = [] ↔ p.around = [] := by
  refine induction_around (motive := fun frames around => frames = [] ↔ around = []) (by simp) ?_ hp
  intro d head _ _
  simp

theorem symbolKind_eq_classType (frames : List Frame) (head : Head) :
    symbolKind frames head = .classType ↔ head.kind = .classType := by
  cases head with
  | classType head => exact ⟨fun _ => rfl, fun _ => rfl⟩
  | function head =>
      constructor
      · intro h
        unfold symbolKind at h
        grind
      · nofun

/-- A symbol is a method exactly if it is a function and the definition right around it is a class. -/
theorem symbolKind_eq_method {body : List Stmt} {p : Place} (hp : p.IsIn body) (head : Head) :
    symbolKind p.frames head = .method ↔ head.kind = .function ∧
      ∃ outer, p.around.head? = some outer ∧ outer.hasKind .classType = true := by
  refine induction_around (motive := fun frames around => symbolKind frames head = .method ↔
    head.kind = .function ∧
      ∃ outer, around.head? = some outer ∧ outer.hasKind .classType = true) ?_ ?_ hp
  · cases head <;> simp [symbolKind]
  · intro d outer houter _
    cases head <;> cases outer <;> simp [symbolKind, Head.kind, hasKind, houter]

theorem parentName_frames {body : List Stmt} {p : Place} (hp : p.IsIn body) :
    parentName p.frames = if p.around = [] then none else some (Ident.dotted p.scopePath) := by
  simp only [parentName, List.isEmpty_iff, frames_eq_nil_iff hp, path_frames]

end Place

def Finding.definition? : Finding → Option (List Frame × Head)
  | .definition frames head => some (frames, head)
  | .reference .. => none

namespace Place

def IsDefinition (p : Place) : Prop :=
  ∃ head, p.head? = some head

def definition? (p : Place) : Option (List Frame × Head) :=
  p.head?.map (p.frames, ·)

theorem isDefinition_iff {p : Place} : p.IsDefinition ↔ p.definition?.isSome = true := by
  rw [definition?, Option.isSome_map, Option.isSome_iff_exists, IsDefinition]

theorem definition?_eq_some_iff {p : Place} {frames : List Frame} {head : Head} :
    p.definition? = some (frames, head) ↔ p.head? = some head ∧ p.frames = frames := by
  rw [definition?]
  cases p.head? <;> simp [and_comm]

/-- Expressions hold no definitions. -/
theorem definition?_of_expr {p : Place} {e : Expr} (hpart : p.part = .expr e) :
    p.places.filterMap definition? = [] := by
  induction p using induction_children generalizing e with
  | step p ih =>
      rw [filterMap_places, List.append_eq_nil_iff, Option.toList_eq_nil_iff,
        List.flatMap_eq_nil_iff]
      constructor
      · rw [definition?, head?, hpart]
        rfl
      · intro c hc
        obtain ⟨index, role, part, hslot, rfl⟩ := mem_children.1 hc
        rw [hpart] at hslot
        obtain ⟨-, e', -, rfl⟩ := Expr.mem_slots (List.mem_of_getElem? hslot)
        exact ih _ hc rfl

theorem selects_definition? : Selects definition? Finding.definition? where
  kind := .inr fun _ _ => rfl
  own p t hpart := by
    have hhead : p.head? = t.head? := by rw [head?, hpart]
    rw [definition?, hhead]
    cases t.head? <;> rfl
  mentions p e hpart _ _ := by
    rw [definition?_of_expr hpart]
    simp [Stmt.references, List.filterMap_map, Function.comp_def, Finding.definition?]
  skipped p e hpart _ := definition?_of_expr hpart

/-- What a symbol says of the definition at a place. -/
structure Defines (d : Place) (s : Symbol) : Prop where
  /-- It has the name, the lines and the signature of the definition. -/
  head : ∃ head signature, d.head? = some head ∧ head.signature = .ok signature ∧
    s.name = head.name.text ∧ s.firstLine = head.span.first ∧ s.lastLine = head.span.last ∧
    s.signature = some signature
  /-- Its parent is the path of the definitions around it, if there are any. -/
  parent : s.parent = if d.around = [] then none else some (Ident.dotted d.scopePath)
  /-- It is a class exactly if the definition is one. -/
  classType : s.kind = .classType ↔ d.hasKind .classType = true
  /-- It is a method exactly if the definition is a function and the one right around it a class. -/
  method : s.kind = .method ↔ d.hasKind .function = true ∧
    ∃ outer, d.around.head? = some outer ∧ outer.hasKind .classType = true

/-- What a reference in a file says of the place where it is made. -/
structure Records (path : String) (p : Place) (ref : Reference) : Prop where
  /-- The reference is made at the place. -/
  makes : p.Makes ref
  /-- It lists the functions around the place, innermost first. -/
  enclosing : ref.enclosing = (p.around.filter (hasKind .function)).map fun d =>
    makeId path (Ident.dotted d.qualifiedPath)
  /-- Its source is the innermost of them, or the module. -/
  source : ref.source = ref.enclosing.headD (makeId path moduleScopeName)
  /-- It names the nearest class around the place, if there is one. -/
  enclosingClass : ref.enclosingClass = (p.around.find? (hasKind .classType)).map fun d =>
    Ident.dotted d.qualifiedPath

theorem defines_of_ofDefinition {body : List Stmt} {d : Place} (hd : d.IsIn body) {head : Head}
    (hhead : d.head? = some head) {s : Symbol}
    (h : Symbol.ofDefinition d.frames head = .ok s) : d.Defines s := by
  cases hsignature : head.signature with
  | error e =>
      rw [Symbol.ofDefinition, hsignature] at h
      cases h
  | ok signature =>
      rw [Symbol.ofDefinition, hsignature] at h
      obtain rfl := Except.ok.inj h
      constructor
      · exact ⟨head, signature, hhead, hsignature, rfl, rfl, rfl, rfl⟩
      · exact parentName_frames hd
      · exact (symbolKind_eq_classType d.frames head).trans (hasKind_iff hhead).symm
      · exact (symbolKind_eq_method hd head).trans (and_congr_left fun _ => (hasKind_iff hhead).symm)

theorem records_of_mention? {body : List Stmt} {p : Place} (hp : p.IsIn body) {frames : List Frame}
    {o : Occurrence} (h : p.mention? = some (frames, o)) (path : String) :
    p.Records path (Reference.ofOccurrence path frames o) := by
  obtain ⟨rfl, -⟩ := mention?_eq_some_iff.1 h
  constructor
  · exact makes_of_mention? h path
  · simp only [Reference.ofOccurrence, functions_frames hp, List.map_map, Function.comp_def]
  · rfl
  · simp only [Reference.ofOccurrence, nearestClass_frames hp, Option.map_map, Function.comp_def]

end Place

end CallAtlas.Source

namespace CallAtlas

open Source

theorem symbolsOf_eq (found : List Finding) :
    symbolsOf found =
      (found.filterMap Finding.definition?).mapM fun d => Symbol.ofDefinition d.1 d.2 :=
  rfl

theorem signature_of_ofDefinition {frames : List Frame} {head : Head} {e : PrintError}
    (h : Symbol.ofDefinition frames head = .error e) : head.signature = .error e := by
  unfold Symbol.ofDefinition at h
  cases hsignature : head.signature with
  | error e' =>
      rw [hsignature] at h
      cases h
      rfl
  | ok signature =>
      rw [hsignature] at h
      cases h

theorem forall₂_trans {α β γ : Type} {R : α → β → Prop} {S : β → γ → Prop} {T : α → γ → Prop}
    (h : ∀ x y z, R x y → S y z → T x z) {xs : List α} {ys : List β} {zs : List γ}
    (hxs : List.Forall₂ R xs ys) (hys : List.Forall₂ S ys zs) : List.Forall₂ T xs zs := by
  induction hxs generalizing zs with
  | nil =>
      cases hys
      exact .nil
  | cons hx _ ih =>
      cases hys with
      | cons hy hys => exact .cons (h _ _ _ hx hy) (ih hys)

/-- The symbols of a module are those for its definitions.  They cannot be had only if the signature of
some definition cannot be written. -/
theorem exists_definitions (body : List Stmt) :
    ∃ defs, Place.Lists body Place.IsDefinition defs ∧
      match symbolsOf (moduleFindings body) with
      | .ok symbols => List.Forall₂ Place.Defines defs symbols
      | .error e => ∃ d ∈ defs, ∃ head, d.head? = some head ∧ head.signature = .error e := by
  obtain ⟨defs, hdefs, hfound⟩ := Place.exists_lists body _ fun _ => Place.isDefinition_iff
  refine ⟨defs, hdefs, ?_⟩
  rw [Place.selects_definition?.of_module] at hfound
  cases hsymbols : symbolsOf (moduleFindings body) with
  | ok symbols =>
      have hin := (List.forall₂_and_left _ _).2 ⟨fun d hd => ((hdefs.2 d).1 hd).1, hfound⟩
      rw [symbolsOf_eq] at hsymbols
      refine forall₂_trans ?_ hin (mapM_ok hsymbols)
      rintro d ⟨frames, head⟩ s ⟨hd, hdefinition⟩ hs
      obtain ⟨hhead, rfl⟩ := Place.definition?_eq_some_iff.1 hdefinition
      exact Place.defines_of_ofDefinition hd hhead hs
  | error e =>
      rw [symbolsOf_eq] at hsymbols
      obtain ⟨⟨frames, head⟩, hmem, herror⟩ := mapM_error hsymbols
      obtain ⟨d, hd, hdefinition⟩ := exists_right_of_forall₂ hfound.flip hmem
      exact ⟨d, hd, head, (Place.definition?_eq_some_iff.1 hdefinition).1,
        signature_of_ofDefinition herror⟩

/-- The symbols of a module stand one for one, in the order of a walk, for its definitions, and its
references for its mentions of chains; both record the definitions around them.  A module cannot be
read only if the signature of some definition cannot be written. -/
theorem ofModule_scoped (path : String) (body : List Stmt) :
    ∃ defs sites, Place.Lists body Place.IsDefinition defs ∧
      Place.Lists body Place.IsMention sites ∧
      match SourceFile.ofModule path body with
      | .ok file => List.Forall₂ Place.Defines defs file.symbols ∧
          List.Forall₂ (Place.Records path) sites file.references
      | .error e => ∃ d ∈ defs, ∃ head, d.head? = some head ∧ head.signature = .error e := by
  obtain ⟨defs, hdefs, hsymbols⟩ := exists_definitions body
  obtain ⟨sites, hsites, hreferences⟩ := exists_sites path body
  refine ⟨defs, sites, hdefs, hsites, ?_⟩
  unfold SourceFile.ofModule
  cases hfound : symbolsOf (moduleFindings body) with
  | error e =>
      rw [hfound] at hsymbols
      simp only [hfound]
      exact hsymbols
  | ok symbols =>
      rw [hfound] at hsymbols
      simp only [hfound]
      refine ⟨hsymbols, hreferences.imp ?_⟩
      rintro p _ ⟨hp, ⟨frames, o⟩, hmention, rfl⟩
      exact Place.records_of_mention? hp hmention path

def nestedClasses : List Stmt :=
  [.classDef ⟨⟨"A", by decide⟩, [], [], ⟨1, 3⟩⟩ []
    [.classDef ⟨⟨"B", by decide⟩, [], [], ⟨2, 3⟩⟩ [] [.pass]]]

/-- What stands right in a class need not be a method: a class there is none. -/
theorem nestedClasses_not_methods :
    ∃ file, SourceFile.ofModule "a.py" nestedClasses = .ok file ∧
      ∀ defs, Place.Lists nestedClasses Place.IsDefinition defs →
        ¬List.Forall₂ (fun d s => s.kind = .method ↔
          ∃ outer, d.around.head? = some outer ∧ outer.hasKind .classType = true) defs file.symbols := by
  refine ⟨⟨"a.py", [⟨"A", .classType, 1, 3, some "class A", none⟩,
    ⟨"B", .classType, 2, 3, some "class B", some "A"⟩], []⟩, eq_ok_of_toOption (by decide +kernel), ?_⟩
  intro defs hdefs hkinds
  have hinner := (hdefs.2 (.inside (.top 0 _) 0 .body (.stmt _))).2 ⟨⟨rfl, rfl⟩, _, rfl⟩
  obtain ⟨s, hs, hkind⟩ := exists_right_of_forall₂ hkinds hinner
  have hmethod := hkind.2 ⟨_, rfl, rfl⟩
  simp only [List.mem_cons, List.not_mem_nil, or_false] at hs
  rcases hs with rfl | rfl <;> cases hmethod

end CallAtlas
