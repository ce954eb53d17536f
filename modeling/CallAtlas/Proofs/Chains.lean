import CallAtlas.Proofs.Places
import Mathlib.Data.List.Forall2

/-!
# Mentions of chains

A chain is a name or an attribute, spelled by the names along it.  A chain that is no part of a longer
one is mentioned where it is called or read, and nowhere else: the references of a module stand one
for one for these places, in the order of a walk.
-/

namespace CallAtlas.Source

namespace Expr

def use? : Expr → Option (Usage × Nat)
  | .name _ usage line => some (usage, line)
  | .member _ _ usage line => some (usage, line)
  | _ => none

/-- The names along a chain.  What a chain hangs off is left out unless it is a name. -/
inductive Spells : Expr → List Ident → Prop
  | name (id : Ident) (usage : Usage) (line : Nat) : Spells (.name id usage line) [id]
  | rooted (value : Expr) (attr : Ident) (usage : Usage) (line : Nat) (hvalue : value.use? = none) :
      Spells (.member value attr usage line) [attr]
  | member (value : Expr) (names : List Ident) (attr : Ident) (usage : Usage) (line : Nat)
      (hvalue : Spells value names) : Spells (.member value attr usage line) (names ++ [attr])

theorem chain_of_use?_eq_none {e : Expr} (h : e.use? = none) : e.chain = [] := by
  cases e <;> first | rfl | cases h

theorem anchor_of_use?_eq_none {e : Expr} (h : e.use? = none) : e.anchor = [e] := by
  cases e <;> first | rfl | cases h

theorem spells_chain {e : Expr} (h : e.use? ≠ none) : e.Spells e.chain := by
  induction e using root.induct with
  | case1 value attr usage line ih =>
      rw [chain]
      by_cases hvalue : value.use? = none
      · rw [chain_of_use?_eq_none hvalue]
        exact .rooted value attr usage line hvalue
      · exact .member value _ attr usage line (ih hvalue)
  | case2 e hmember =>
      cases e with
      | name id usage line => exact .name id usage line
      | member value attr usage line => exact absurd rfl (hmember value attr usage line)
      | _ => exact absurd rfl h

/-- A chain is spelled in one way. -/
theorem spells_iff {e : Expr} {names : List Ident} :
    e.Spells names ↔ e.use? ≠ none ∧ names = e.chain := by
  constructor
  · intro h
    induction h with
    | name id usage line => exact ⟨nofun, rfl⟩
    | rooted value attr usage line hvalue =>
        rw [chain, chain_of_use?_eq_none hvalue]
        exact ⟨nofun, rfl⟩
    | member value names attr usage line hvalue ih =>
        rw [chain, ih.2]
        exact ⟨nofun, rfl⟩
  · rintro ⟨h, rfl⟩
    exact spells_chain h

theorem occurrences_eq (e : Expr) :
    e.occurrences = e.ownOccurrence ++ e.searched.flatMap occurrences := by
  rw [occurrences, List.flatMap_subtype (g := occurrences), List.unattach_attach]
  intro c hc
  rfl

/-- The mention of a name or an attribute that is read. -/
def reading? (e : Expr) : Option Occurrence :=
  match e.use? with
  | some (.load, line) => some ⟨.references, e.chain, line⟩
  | _ => none

/-- The mention that an expression makes in its role. -/
def mentionAs? (role : Option Role) (e : Expr) : Option Occurrence :=
  match role with
  | some .receiver => none
  | some (.callee line) => e.use?.map fun _ => ⟨.calls, e.chain, line⟩
  | _ => e.reading?

def mentionsAs (role : Option Role) (e : Expr) : List Occurrence :=
  match role with
  -- A chain that goes on has been mentioned as a whole, so only its root is searched.
  | some .receiver => e.anchor.flatMap occurrences
  | some (.callee line) =>
    (e.mentionAs? (some (.callee line))).toList ++ e.anchor.flatMap occurrences
  | _ => e.occurrences

def slotMentions : Role × Part → List Occurrence
  | (role, .expr e) => e.mentionsAs (some role)
  | (_, .stmt _) => []

theorem flatMap_slotMentions_plain (es : List Expr) :
    (Role.plain.exprs es).flatMap slotMentions = es.flatMap occurrences := by
  rw [Role.exprs, List.flatMap_map]
  rfl

/-- A chain is mentioned first, and then what it hangs off is searched. -/
theorem mentionsAs_of_use? {e : Expr} {use : Usage × Nat} (h : e.use? = some use)
    (role : Option Role) :
    e.mentionsAs role = (e.mentionAs? role).toList ++ e.anchor.flatMap occurrences := by
  have hreading : e.occurrences = e.reading?.toList ++ e.anchor.flatMap occurrences := by
    rw [occurrences_eq]
    cases e with
    | name id usage line => cases usage <;> rfl
    | member value attr usage line => cases usage <;> rfl
    | _ => cases h
  rcases role with _ | role
  · exact hreading
  · cases role with
    | receiver => rfl
    | callee line => rfl
    | _ => exact hreading

theorem mentionsAs_of_use?_eq_none {e : Expr} (h : e.use? = none) (role : Option Role) :
    e.mentionsAs role = e.occurrences := by
  have hanchor : e.anchor.flatMap occurrences = e.occurrences := by
    rw [anchor_of_use?_eq_none h, List.flatMap_singleton]
  rcases role with _ | role
  · rfl
  · cases role with
    | receiver => exact hanchor
    | callee line => simpa [mentionsAs, mentionAs?, h] using hanchor
    | _ => rfl

theorem mentionAs?_of_use?_eq_none {e : Expr} (h : e.use? = none) (role : Option Role) :
    e.mentionAs? role = none := by
  unfold mentionAs? reading?
  rw [h]
  split <;> rfl

/-- What is called is mentioned by the call. -/
theorem ownOccurrence_call (func : Expr) (args : List Expr) (keywords : List (Keyword Expr))
    (line : Nat) : ownOccurrence (.call func args keywords line) =
      (func.mentionAs? (some (.callee line))).toList := by
  cases func <;> rfl

theorem occurrences_of_use?_eq_none {e : Expr} (h : e.use? = none) :
    e.occurrences = e.slots.flatMap slotMentions := by
  rw [occurrences_eq]
  cases e with
  | name id usage line => cases h
  | member value attr usage line => cases h
  | call func args keywords line =>
      rw [slots, List.flatMap_cons, flatMap_slotMentions_plain, slotMentions, mentionsAs,
        ownOccurrence_call, searched, List.append_assoc, List.flatMap_append, List.append_assoc]
  | _ => exact (flatMap_slotMentions_plain _).symm

/-- An expression makes its own mention, and all else is mentioned in its parts. -/
theorem mentionsAs_eq (role : Option Role) (e : Expr) :
    e.mentionsAs role = (e.mentionAs? role).toList ++ e.slots.flatMap slotMentions := by
  cases h : e.use? with
  | none =>
      rw [mentionsAs_of_use?_eq_none h, mentionAs?_of_use?_eq_none h, occurrences_of_use?_eq_none h]
      rfl
  | some use =>
      rw [mentionsAs_of_use? h]
      congr 1
      cases e with
      | name id usage line => rfl
      | member value attr usage line => exact (List.flatMap_singleton _ _).symm
      | _ => cases h

theorem reading?_eq_some_iff {e : Expr} {o : Occurrence} :
    e.reading? = some o ↔
      o.target = e.chain ∧ o.kind = .references ∧ e.use? = some (.load, o.line) := by
  obtain ⟨kind, target, line⟩ := o
  unfold reading?
  split
  · rename_i line' huse
    rw [huse]
    simp only [Option.some.injEq, Occurrence.mk.injEq, Prod.mk.injEq]
    grind
  · rename_i hload
    constructor
    · nofun
    · rintro ⟨-, -, huse⟩
      exact absurd huse (hload line)

/-- A chain that is called is mentioned on the line of the call, and any other chain that is read on
its own line. -/
theorem mentionAs?_eq_some_iff {e : Expr} {role : Option Role} {o : Occurrence} :
    e.mentionAs? role = some o ↔ e.Spells o.target ∧ role ≠ some .receiver ∧
      ((o.kind = .calls ∧ role = some (.callee o.line)) ∨
        (o.kind = .references ∧ (∀ line, role ≠ some (.callee line)) ∧
          e.use? = some (.load, o.line))) := by
  rw [spells_iff]
  unfold mentionAs?
  split
  · simp
  · rw [Option.map_eq_some_iff]
    constructor
    · rintro ⟨use, huse, rfl⟩
      exact ⟨⟨huse ▸ nofun, rfl⟩, nofun, .inl ⟨rfl, rfl⟩⟩
    · rintro ⟨⟨huse, htarget⟩, -, ⟨hkind, hrole⟩ | ⟨-, hrole, -⟩⟩
      · obtain ⟨use, huse⟩ := Option.ne_none_iff_exists'.1 huse
        obtain ⟨kind, target, line⟩ := o
        cases hrole
        exact ⟨use, huse, by rw [← hkind, ← htarget]⟩
      · exact absurd rfl (hrole _)
  · rename_i hreceiver hcallee
    rw [reading?_eq_some_iff]
    constructor
    · rintro ⟨htarget, hkind, huse⟩
      exact ⟨⟨huse ▸ nofun, htarget⟩, hreceiver, .inr ⟨hkind, hcallee, huse⟩⟩
    · rintro ⟨⟨-, htarget⟩, -, ⟨-, hrole⟩ | ⟨hkind, -, huse⟩⟩
      · exact absurd hrole (hcallee _)
      · exact ⟨htarget, hkind, huse⟩

end Expr

def Finding.reference? : Finding → Option (List Frame × Occurrence)
  | .definition .. => none
  | .reference frames o => some (frames, o)

namespace Place

/-- The mention at a place, with its scope. -/
def mention? (p : Place) : Option (List Frame × Occurrence) :=
  match p.part with
  | .expr e => if p.searched then (e.mentionAs? p.role?).map (p.frames, ·) else none
  | .stmt _ => none

/-- What stands below a place that is not searched is not searched either. -/
theorem mention?_skipped {p : Place} (hsearched : p.searched = false) :
    p.places.filterMap mention? = [] := by
  induction p using induction_children with
  | step p ih =>
      rw [filterMap_places, List.append_eq_nil_iff, Option.toList_eq_nil_iff,
        List.flatMap_eq_nil_iff]
      constructor
      · unfold mention?
        split <;> simp [hsearched]
      · intro c hc
        obtain ⟨index, role, part, -, rfl⟩ := mem_children.1 hc
        exact ih _ hc (by simp [searched, hsearched])

/-- The mentions at and below an expression are those that a search of the expression finds. -/
theorem mention?_of_expr {p : Place} {e : Expr} (hpart : p.part = .expr e)
    (hsearched : p.searched = true) :
    p.places.filterMap mention? = (e.mentionsAs p.role?).map (p.frames, ·) := by
  induction p using induction_children generalizing e with
  | step p ih =>
      have hchildren : (p.children.flatMap fun c => c.places.filterMap mention?) =
          p.part.slots.flatMap fun slot => (Expr.slotMentions slot).map (p.frames, ·) := by
        refine flatMap_children ?_
        intro index role part hchild
        have hslot := mem_slots_of_mem_children hchild
        rw [hpart] at hslot
        obtain ⟨⟨hbody, hhint, hbase⟩, c, -, rfl⟩ := Expr.mem_slots hslot
        have hc : (inside p index role (.expr c)).searched = true := by
          simp [searched, hsearched, hhint, hbase]
        rw [ih _ hchild rfl hc, frames_inside hbody]
        rfl
      have hown : p.mention? = (e.mentionAs? p.role?).map (p.frames, ·) := by
        rw [mention?, hpart, hsearched]
        rfl
      rw [filterMap_places, hown, hchildren, hpart, Expr.mentionsAs_eq, List.map_append,
        List.map_flatMap, Option.toList_map]
      rfl

theorem selects_mention? : Selects mention? Finding.reference? where
  kind := .inl fun _ _ => rfl
  own p t hpart := by
    rw [mention?, hpart]
    cases t.head? <;> rfl
  mentions p e hpart hrole hsearched := by
    rw [mention?_of_expr hpart hsearched, hrole]
    simp [Stmt.references, Expr.mentionsAs, List.filterMap_map, Function.comp_def,
      Finding.reference?]
  skipped p _ _ hsearched := mention?_skipped hsearched

/-- A chain stands at a place, and it is no part of a longer one. -/
def IsChain (p : Place) (e : Expr) (names : List Ident) : Prop :=
  p.part = .expr e ∧ e.Spells names ∧ p.role? ≠ some .receiver

def IsCalled (p : Place) : Prop :=
  ∃ line, p.role? = some (.callee line)

/-- A chain that is called or read stands at a place that is searched. -/
def IsMention (p : Place) : Prop :=
  p.searched = true ∧ ∃ e names, p.IsChain e names ∧
    (p.IsCalled ∨ ∃ line, e.use? = some (.load, line))

/-- A reference names the chain at a place.  It is a call with the line of the call if the chain is
called, and otherwise the chain is read, on the line of the reference. -/
def Makes (p : Place) (ref : Reference) : Prop :=
  ∃ e names, p.IsChain e names ∧ ref.target = Ident.dotted names ∧
    ((ref.kind = .calls ∧ p.role? = some (.callee ref.line)) ∨
      (ref.kind = .references ∧ ¬p.IsCalled ∧ e.use? = some (.load, ref.line)))

theorem mention?_eq_some_iff {p : Place} {frames : List Frame} {o : Occurrence} :
    p.mention? = some (frames, o) ↔ frames = p.frames ∧ p.searched = true ∧
      ∃ e, p.IsChain e o.target ∧
        ((o.kind = .calls ∧ p.role? = some (.callee o.line)) ∨
          (o.kind = .references ∧ ¬p.IsCalled ∧ e.use? = some (.load, o.line))) := by
  unfold mention? IsChain IsCalled
  cases hpart : p.part with
  | stmt t => simp
  | expr e =>
      cases hsearched : p.searched with
      | false => simp
      | true =>
          have hpair : (e.mentionAs? p.role?).map (p.frames, ·) = some (frames, o) ↔
              frames = p.frames ∧ e.mentionAs? p.role? = some o := by
            cases e.mentionAs? p.role? <;> simp [eq_comm]
          dsimp only
          rw [if_pos rfl, hpair, Expr.mentionAs?_eq_some_iff]
          simp [and_assoc]

theorem makes_of_mention? {p : Place} {frames : List Frame} {o : Occurrence}
    (h : p.mention? = some (frames, o)) (path : String) :
    p.Makes (Reference.ofOccurrence path frames o) := by
  obtain ⟨-, -, e, hchain, hkind⟩ := mention?_eq_some_iff.1 h
  exact ⟨e, o.target, hchain, rfl, hkind⟩

theorem isMention_iff {p : Place} : p.IsMention ↔ p.mention?.isSome = true := by
  rw [Option.isSome_iff_exists]
  constructor
  · rintro ⟨hsearched, e, names, hchain, hkind⟩
    by_cases hcalled : p.IsCalled
    · obtain ⟨line, hrole⟩ := hcalled
      exact ⟨(p.frames, ⟨.calls, names, line⟩),
        mention?_eq_some_iff.2 ⟨rfl, hsearched, e, hchain, .inl ⟨rfl, hrole⟩⟩⟩
    · obtain ⟨line, huse⟩ := hkind.resolve_left hcalled
      exact ⟨(p.frames, ⟨.references, names, line⟩),
        mention?_eq_some_iff.2 ⟨rfl, hsearched, e, hchain, .inr ⟨rfl, hcalled, huse⟩⟩⟩
  · rintro ⟨⟨frames, o⟩, hp⟩
    obtain ⟨-, hsearched, e, hchain, hkind⟩ := mention?_eq_some_iff.1 hp
    refine ⟨hsearched, e, o.target, hchain, ?_⟩
    rcases hkind with ⟨-, hrole⟩ | ⟨-, -, huse⟩
    · exact .inl ⟨o.line, hrole⟩
    · exact .inr ⟨o.line, huse⟩

end Place

end CallAtlas.Source

namespace CallAtlas

open Source

theorem referencesOf_eq (path : String) (found : List Finding) :
    referencesOf path found =
      (found.filterMap Finding.reference?).map fun m => Reference.ofOccurrence path m.1 m.2 := by
  rw [referencesOf, List.map_filterMap]
  refine List.filterMap_congr ?_
  rintro (f | f) - <;> rfl

/-- The references of a module are those for what is mentioned at its places. -/
theorem exists_sites (path : String) (body : List Stmt) :
    ∃ sites, Place.Lists body Place.IsMention sites ∧
      List.Forall₂ (fun p ref => p.IsIn body ∧
          ∃ m, p.mention? = some m ∧ ref = Reference.ofOccurrence path m.1 m.2)
        sites (referencesOf path (moduleFindings body)) := by
  obtain ⟨sites, hsites, hmentions⟩ := Place.exists_lists body _ fun _ => Place.isMention_iff
  refine ⟨sites, hsites, ?_⟩
  rw [referencesOf_eq, ← Place.selects_mention?.of_module, List.forall₂_map_right_iff,
    List.forall₂_and_left]
  constructor
  · intro p hp
    exact ((hsites.2 p).1 hp).1
  · refine hmentions.imp ?_
    intro p m hp
    exact ⟨m, hp, rfl⟩

/-- The references of a module stand one for one, in the order of a walk, for the places where a
chain is called or read that is no part of a longer chain, save in the annotations of functions and
the bases of classes. -/
theorem referencesOf_moduleFindings (path : String) (body : List Stmt) :
    ∃ sites, Place.Lists body Place.IsMention sites ∧
      List.Forall₂ Place.Makes sites (referencesOf path (moduleFindings body)) := by
  obtain ⟨sites, hsites, hreferences⟩ := exists_sites path body
  refine ⟨sites, hsites, hreferences.imp ?_⟩
  rintro p _ ⟨-, ⟨frames, o⟩, hp, rfl⟩
  exact Place.makes_of_mention? hp path

end CallAtlas
