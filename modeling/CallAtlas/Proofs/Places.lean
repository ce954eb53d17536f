import CallAtlas.Proofs.Findings

/-!
# Places in a module

A module is a tree of statements and expressions.  Each of them stands at a place, which is the way
that leads down to it, and has a role below the part that holds it.  The address of a place says which
part to take on each step, so that the order of addresses is the order of a walk that meets a part
before everything below it.

The scope of a place and whether it is searched can be read off the way down: a way leads through the
bodies of the definitions around a place, and not through an annotation of a function or a base of a
class if the place is searched.
-/

namespace CallAtlas.Source

/-- What a part is for the part that holds it. -/
inductive Role where
  /-- A statement in the body of a definition. -/
  | body
  /-- An annotation of a parameter or of the result of a function definition. -/
  | hint
  /-- A base of a class definition. -/
  | base
  /-- What an attribute is taken of. -/
  | receiver
  /-- What a call on the given line calls. -/
  | callee (line : Nat)
  /-- Anything else. -/
  | plain
deriving DecidableEq

def Role.exprs (role : Role) (es : List Expr) : List (Role × Part) :=
  es.map fun e => (role, .expr e)

def Role.ofBody (body : List Stmt) : List (Role × Part) :=
  body.map fun s => (.body, .stmt s)

def Params.hints {α : Type} (p : Params α) : List α :=
  (p.positionalOnly ++ p.ordinary ++ p.variadic.toList ++ p.keywordOnly ++
    p.keywordVariadic.toList).filterMap Param.annotation

/-- The parts of an expression with their roles. -/
def Expr.slots : Expr → List (Role × Part)
  | .member value _ _ _ => [(.receiver, .expr value)]
  | .call func args keywords line =>
    (.callee line, .expr func) :: Role.plain.exprs (args ++ keywords.map (·.value))
  | e => Role.plain.exprs e.children

/-- The parts of a statement with their roles.  A definition has its decorators, its defaults or
keywords, its annotations or bases, and its body. -/
def Stmt.slots : Stmt → List (Role × Part)
  | .functionDef head decorators body =>
    Role.plain.exprs
        (decorators ++ head.params.defaults ++ head.params.keywordDefaults.filterMap id) ++
      Role.hint.exprs (head.params.hints ++ head.returns.toList) ++ Role.ofBody body
  | .classDef head decorators body =>
    Role.plain.exprs (decorators ++ head.keywords.map (·.value)) ++ Role.base.exprs head.bases ++
      Role.ofBody body
  | other => other.parts.map fun part => (.plain, part)

/-- All parts of a part with their roles, in the order of a walk. -/
def Part.slots : Part → List (Role × Part)
  | .expr e => e.slots
  | .stmt s => s.slots

/-- A statement or expression with the way that leads down to it. -/
inductive Place where
  /-- A statement of the module itself. -/
  | top (index : Nat) (s : Stmt)
  /-- A part of what stands at another place. -/
  | inside (outer : Place) (index : Nat) (role : Role) (part : Part)

namespace Place

def part : Place → Part
  | .top _ s => .stmt s
  | .inside _ _ _ part => part

/-- Which part to take on each step of the way. -/
def address : Place → List Nat
  | .top index _ => [index]
  | .inside outer index _ _ => outer.address ++ [index]

def role? : Place → Option Role
  | .top .. => none
  | .inside _ _ role _ => some role

/-- A place is one of a module: there is what it says, on every step of the way. -/
def IsIn (body : List Stmt) : Place → Prop
  | .top index s => body[index]? = some s
  | .inside outer index role part =>
    outer.IsIn body ∧ outer.part.slots[index]? = some (role, part)

/-- Whether a place is neither in an annotation of a function nor in a base of a class. -/
def searched : Place → Bool
  | .top .. => true
  | .inside outer _ role _ => outer.searched && role != .hint && role != .base

/-- The definitions whose bodies hold a place, innermost first. -/
def around : Place → List Place
  | .top .. => []
  | .inside outer _ role _ => if role = .body then outer :: outer.around else outer.around

def head? (p : Place) : Option Head :=
  match p.part with
  | .stmt s => s.head?
  | .expr _ => none

def children (p : Place) : List Place :=
  p.part.slots.mapIdx fun index step => .inside p index step.1 step.2

/-- The places of a list have a property, they are all places of a module that have it, and they
stand in the order of a walk. -/
def Lists (body : List Stmt) (property : Place → Prop) (places : List Place) : Prop :=
  places.Pairwise (fun p q => p.address < q.address) ∧
    ∀ p, p ∈ places ↔ p.IsIn body ∧ property p

theorem mem_children {p q : Place} : q ∈ p.children ↔
    ∃ index role part, p.part.slots[index]? = some (role, part) ∧ q = .inside p index role part := by
  rw [children, List.mem_mapIdx]
  constructor
  · rintro ⟨index, hindex, rfl⟩
    exact ⟨index, _, _, List.getElem?_eq_getElem hindex, rfl⟩
  · rintro ⟨index, role, part, hpart, rfl⟩
    obtain ⟨hindex, heq⟩ := List.getElem?_eq_some_iff.1 hpart
    exact ⟨index, hindex, by rw [heq]⟩

end Place

/-! ## Walking -/

/-- A measure of parts that is smaller for the parts that a part holds: expressions hold no
statements. -/
noncomputable def Part.rank : Part → Nat × Nat
  | .expr e => (0, sizeOf e)
  | .stmt s => (1, sizeOf s)

theorem Role.mem_exprs {role role' : Role} {es : List Expr} {part : Part} :
    (role, part) ∈ role'.exprs es ↔ role = role' ∧ ∃ e ∈ es, part = .expr e := by
  simp only [Role.exprs, List.mem_map, Prod.mk.injEq, eq_comm (a := role), eq_comm (a := part)]
  grind

theorem Role.mem_ofBody {role : Role} {body : List Stmt} {part : Part} :
    (role, part) ∈ Role.ofBody body ↔ role = .body ∧ ∃ s ∈ body, part = .stmt s := by
  simp only [Role.ofBody, List.mem_map, Prod.mk.injEq, eq_comm (a := role), eq_comm (a := part)]
  grind

/-- A part of an expression is an expression in the same scope. -/
theorem Expr.mem_slots {e : Expr} {role : Role} {part : Part} (h : (role, part) ∈ e.slots) :
    (role ≠ .body ∧ role ≠ .hint ∧ role ≠ .base) ∧ ∃ c ∈ e.children, part = .expr c := by
  unfold slots at h
  split at h
  · obtain ⟨rfl, rfl⟩ := Prod.mk.inj (List.mem_singleton.1 h)
    exact ⟨⟨nofun, nofun, nofun⟩, _, List.mem_singleton_self _, rfl⟩
  · rcases List.mem_cons.1 h with h | h
    · obtain ⟨rfl, rfl⟩ := Prod.mk.inj h
      exact ⟨⟨nofun, nofun, nofun⟩, _, List.mem_cons_self, rfl⟩
    · obtain ⟨rfl, c, hc, rfl⟩ := Role.mem_exprs.1 h
      exact ⟨⟨nofun, nofun, nofun⟩, c, List.mem_cons_of_mem _ hc, rfl⟩
  · obtain ⟨rfl, c, hc, rfl⟩ := Role.mem_exprs.1 h
    exact ⟨⟨nofun, nofun, nofun⟩, c, hc, rfl⟩

theorem Stmt.slots_of_head?_eq_none {t : Stmt} (h : t.head? = none) :
    t.slots = t.parts.map fun part => (.plain, part) := by
  cases t <;> first | rfl | cases h

/-- A part of a statement stands in its body, is an annotation or a base, or is in the scope of the
statement itself. -/
theorem Stmt.mem_slots {t : Stmt} {role : Role} {part : Part} (h : (role, part) ∈ t.slots) :
    (role = .body ∧ part ∈ t.parts ∧ ∃ s, part = .stmt s) ∨
      ((role = .hint ∨ role = .base) ∧ ∃ e, part = .expr e) ∨
      role = .plain ∧ (part ∈ t.parts ∨ ∃ e, part = .expr e) := by
  unfold slots at h
  split at h
  · simp only [List.mem_append, Role.mem_exprs, Role.mem_ofBody] at h
    rcases h with (⟨rfl, e, -, rfl⟩ | ⟨rfl, e, -, rfl⟩) | ⟨rfl, s, hs, rfl⟩
    · exact .inr (.inr ⟨rfl, .inr ⟨e, rfl⟩⟩)
    · exact .inr (.inl ⟨.inl rfl, e, rfl⟩)
    · exact .inl ⟨rfl, List.mem_append_right _ (List.mem_map_of_mem hs), s, rfl⟩
  · simp only [List.mem_append, Role.mem_exprs, Role.mem_ofBody] at h
    rcases h with (⟨rfl, e, -, rfl⟩ | ⟨rfl, e, -, rfl⟩) | ⟨rfl, s, hs, rfl⟩
    · exact .inr (.inr ⟨rfl, .inr ⟨e, rfl⟩⟩)
    · exact .inr (.inl ⟨.inr rfl, e, rfl⟩)
    · exact .inl ⟨rfl, List.mem_append_right _ (List.mem_map_of_mem hs), s, rfl⟩
  · obtain ⟨part', hpart', heq⟩ := List.mem_map.1 h
    obtain ⟨rfl, rfl⟩ := Prod.mk.inj heq
    exact .inr (.inr ⟨rfl, .inl hpart'⟩)

theorem Stmt.mem_parts_of_mem_slots {t s : Stmt} {role : Role} (h : (role, .stmt s) ∈ t.slots) :
    Part.stmt s ∈ t.parts := by
  rcases mem_slots h with ⟨-, hpart, -⟩ | ⟨-, e, he⟩ | ⟨-, hpart | ⟨e, he⟩⟩
  · exact hpart
  · cases he
  · exact hpart
  · cases he

theorem Part.rank_lt {part inner : Part} {role : Role} (h : (role, inner) ∈ part.slots) :
    Prod.Lex (· < ·) (· < ·) inner.rank part.rank := by
  cases part with
  | expr e =>
      obtain ⟨-, c, hc, rfl⟩ := Expr.mem_slots h
      exact .right _ (Expr.sizeOf_lt_of_mem_children hc)
  | stmt t =>
      cases inner with
      | expr e => exact .left _ _ Nat.zero_lt_one
      | stmt s => exact .right _ (Stmt.sizeOf_lt_of_mem_parts (Stmt.mem_parts_of_mem_slots h))

namespace Place

theorem mem_slots_of_mem_children {p : Place} {index : Nat} {role : Role} {part : Part}
    (h : inside p index role part ∈ p.children) : (role, part) ∈ p.part.slots := by
  obtain ⟨index, role, part, hpart, heq⟩ := mem_children.1 h
  cases heq
  exact List.mem_of_getElem? hpart

theorem rank_lt {p q : Place} (h : q ∈ p.children) :
    Prod.Lex (· < ·) (· < ·) q.part.rank p.part.rank := by
  obtain ⟨index, role, part, hpart, rfl⟩ := mem_children.1 h
  exact Part.rank_lt (List.mem_of_getElem? hpart)

/-- Induction over the places of the parts of what stands at a place. -/
theorem induction_children {motive : Place → Prop}
    (step : ∀ p, (∀ q ∈ p.children, motive q) → motive p) (p : Place) : motive p :=
  step p fun q _ => induction_children step q
termination_by p.part.rank
decreasing_by exact rank_lt ‹_›

/-- A place with all places below it, in the order of a walk. -/
def places (p : Place) : List Place :=
  p :: p.children.attach.flatMap fun ⟨q, _⟩ => q.places
termination_by p.part.rank
decreasing_by exact rank_lt ‹_›

theorem places_eq (p : Place) : p.places = p :: p.children.flatMap places := by
  rw [places, List.flatMap_subtype (g := places), List.unattach_attach]
  intro q hq
  rfl

theorem mem_places_self (p : Place) : p ∈ p.places := by
  rw [places_eq]
  exact List.mem_cons_self

theorem mem_places {p q : Place} : q ∈ p.places ↔ q = p ∨ ∃ c ∈ p.children, q ∈ c.places := by
  rw [places_eq, List.mem_cons, List.mem_flatMap]

/-- A walk goes on to the parts of what it meets. -/
theorem mem_places_child {p q c : Place} (hq : q ∈ p.places) (hc : c ∈ q.children) :
    c ∈ p.places := by
  induction p using induction_children with
  | step p ih =>
      rcases mem_places.1 hq with rfl | ⟨c', hc', hq⟩
      · exact mem_places.2 (.inr ⟨c, hc, mem_places_self c⟩)
      · exact mem_places.2 (.inr ⟨c', hc', ih c' hc' hq⟩)

theorem isIn_of_mem_places {body : List Stmt} {p q : Place} (hp : p.IsIn body)
    (hq : q ∈ p.places) : q.IsIn body := by
  induction p using induction_children with
  | step p ih =>
      rcases mem_places.1 hq with rfl | ⟨c, hc, hq⟩
      · exact hp
      · refine ih c hc ?_ hq
        obtain ⟨index, role, part, hpart, rfl⟩ := mem_children.1 hc
        exact ⟨hp, hpart⟩

def ofModule (body : List Stmt) : List Place :=
  (body.mapIdx .top).flatMap places

/-- A walk through a module meets exactly its places. -/
theorem mem_ofModule {body : List Stmt} {p : Place} : p ∈ ofModule body ↔ p.IsIn body := by
  constructor
  · intro hp
    obtain ⟨q, hq, hp⟩ := List.mem_flatMap.1 hp
    obtain ⟨index, hindex, rfl⟩ := List.mem_mapIdx.1 hq
    have htop : (Place.top index body[index]).IsIn body := List.getElem?_eq_getElem hindex
    exact isIn_of_mem_places htop hp
  · intro hp
    induction p with
    | top index s =>
        obtain ⟨hindex, rfl⟩ := List.getElem?_eq_some_iff.1 hp
        exact List.mem_flatMap.2 ⟨_, List.mem_mapIdx.2 ⟨index, hindex, rfl⟩, mem_places_self _⟩
    | inside outer index role part ih =>
        obtain ⟨q, hq, houter⟩ := List.mem_flatMap.1 (ih hp.1)
        refine List.mem_flatMap.2 ⟨q, hq, mem_places_child houter ?_⟩
        exact mem_children.2 ⟨index, role, part, hp.2, rfl⟩

theorem address_isPrefix {p q : Place} (h : q ∈ p.places) : p.address <+: q.address := by
  induction p using induction_children with
  | step p ih =>
      rcases mem_places.1 h with rfl | ⟨c, hc, h⟩
      · exact List.prefix_refl _
      · obtain ⟨index, role, part, -, rfl⟩ := mem_children.1 hc
        exact (List.prefix_append _ _).trans (ih _ hc h)

/-- What starts with an earlier step comes before what starts with a later one. -/
theorem address_lt {a x y : List Nat} {i j : Nat} (hij : i < j) (hx : a ++ [i] <+: x)
    (hy : a ++ [j] <+: y) : x < y := by
  obtain ⟨x', rfl⟩ := hx
  obtain ⟨y', rfl⟩ := hy
  rw [List.append_assoc, List.append_assoc]
  exact List.append_left_lt (List.cons_lt_cons_iff.2 (.inl hij))

theorem lt_address {a x : List Nat} {i : Nat} (hx : a ++ [i] <+: x) : a < x := by
  obtain ⟨x', rfl⟩ := hx
  have hnil : a ++ [] < a ++ ([i] ++ x') := List.append_left_lt (List.nil_lt_cons _ _)
  rwa [List.append_nil, ← List.append_assoc] at hnil

/-- Places whose ways part at one step are met in the order of that step. -/
theorem pairwise_flatMap_places {α : Type} {steps : List α} {start : Nat → α → Place} {a : List Nat}
    (haddress : ∀ i x, (start i x).address = a ++ [i])
    (hsorted : ∀ p ∈ steps.mapIdx start, p.places.Pairwise fun p q => p.address < q.address) :
    ((steps.mapIdx start).flatMap places).Pairwise fun p q => p.address < q.address := by
  refine List.pairwise_flatMap.2 ⟨hsorted, List.pairwise_iff_getElem.2 ?_⟩
  intro i j hi hj hij p hp q hq
  have hp := address_isPrefix hp
  have hq := address_isPrefix hq
  rw [List.getElem_mapIdx, haddress] at hp hq
  exact address_lt hij hp hq

theorem places_sorted (p : Place) : p.places.Pairwise fun p q => p.address < q.address := by
  induction p using induction_children with
  | step p ih =>
      rw [places_eq, List.pairwise_cons]
      constructor
      · intro q hq
        obtain ⟨c, hc, hq⟩ := List.mem_flatMap.1 hq
        obtain ⟨index, role, part, -, rfl⟩ := mem_children.1 hc
        exact lt_address (address_isPrefix hq)
      · exact pairwise_flatMap_places (fun _ _ => rfl) ih

theorem ofModule_sorted (body : List Stmt) :
    (ofModule body).Pairwise fun p q => p.address < q.address :=
  pairwise_flatMap_places (a := []) (fun _ _ => rfl) fun p _ => p.places_sorted

/-! ## Selecting places -/

/-- What is selected at a place comes before what is selected below it. -/
theorem filterMap_places {β : Type} (select : Place → Option β) (p : Place) :
    p.places.filterMap select =
      (select p).toList ++ p.children.flatMap fun c => c.places.filterMap select := by
  rw [places_eq, List.filterMap_cons, List.filterMap_flatMap]
  cases select p <;> rfl

theorem flatMap_mapIdx {α β γ : Type} {xs : List α} {place : Nat → α → β} {selected : β → List γ}
    {ofStep : α → List γ}
    (h : ∀ index x, xs[index]? = some x → selected (place index x) = ofStep x) :
    (xs.mapIdx place).flatMap selected = xs.flatMap ofStep := by
  induction xs generalizing place with
  | nil => rfl
  | cons x xs ih =>
      rw [List.mapIdx_cons, List.flatMap_cons, List.flatMap_cons, h 0 x rfl, ih]
      intro index x' hx'
      exact h (index + 1) x' hx'

/-- What stands below a place is selected part by part, whatever their indices are. -/
theorem flatMap_children {β : Type} {p : Place} {selected : Place → List β}
    {ofSlot : Role × Part → List β}
    (h : ∀ index role part, inside p index role part ∈ p.children →
      selected (.inside p index role part) = ofSlot (role, part)) :
    p.children.flatMap selected = p.part.slots.flatMap ofSlot := by
  refine flatMap_mapIdx ?_
  rintro index ⟨role, part⟩ hslot
  exact h index role part (mem_children.2 ⟨index, role, part, hslot, rfl⟩)

/-- What is selected in a module is selected at the places that have a property, one after the
other. -/
theorem exists_lists {β : Type} (body : List Stmt) {property : Place → Prop}
    (select : Place → Option β) (hselect : ∀ p, property p ↔ (select p).isSome = true) :
    ∃ places, Lists body property places ∧
      List.Forall₂ (fun p x => select p = some x) places ((ofModule body).filterMap select) := by
  refine ⟨(ofModule body).filter fun p => (select p).isSome, ⟨?_, ?_⟩, ?_⟩
  · exact (ofModule_sorted body).filter _
  · intro p
    rw [List.mem_filter, mem_ofModule, hselect]
  · induction ofModule body with
    | nil => exact .nil
    | cons p places ih =>
        cases hp : select p with
        | none => simpa [hp] using ih
        | some x => simpa [hp] using ih

end Place

/-! ## What a walk finds at a place -/

namespace Stmt

def slotFindings (t : Stmt) (frames : List Frame) : Role × Part → List Finding
  | (.hint, _) => []
  | (.base, _) => []
  | (.body, part) => partFindings (t.inner frames) part
  | (_, part) => partFindings frames part

theorem flatMap_exprs_plain (t : Stmt) (frames : List Frame) (es : List Expr) :
    (Role.plain.exprs es).flatMap (t.slotFindings frames) = references frames es := by
  simp [Role.exprs, List.flatMap_map, slotFindings, partFindings, references]

theorem flatMap_exprs_skipped (t : Stmt) (frames : List Frame) (es : List Expr) {role : Role}
    (hrole : role = .hint ∨ role = .base) : (role.exprs es).flatMap (t.slotFindings frames) = [] := by
  rcases hrole with rfl | rfl <;> simp [Role.exprs, List.flatMap_map, slotFindings]

theorem flatMap_ofBody (t : Stmt) (frames : List Frame) (body : List Stmt) :
    (Role.ofBody body).flatMap (t.slotFindings frames) =
      body.flatMap (findings (t.inner frames)) := by
  rw [Role.ofBody, List.flatMap_map]
  rfl

/-- A walk finds the definition that a statement makes between some mentions and all else that the
parts of the statement hold. -/
theorem findings_eq (t : Stmt) (frames : List Frame) : ∃ before after,
    t.slots.flatMap (t.slotFindings frames) = before ++ after ∧
    t.findings frames = before ++ (t.head?.map (.definition frames)).toList ++ after ∧
    ∀ f ∈ before, ∃ o, f = .reference frames o := by
  have hreferences : ∀ {es : List Expr}, ∀ f ∈ references frames es, ∃ o, f = .reference frames o := by
    intro es f hf
    obtain ⟨e, -, o, -, rfl⟩ := mem_references.1 hf
    exact ⟨o, rfl⟩
  cases hhead : t.head? with
  | none =>
      refine ⟨[], t.slots.flatMap (t.slotFindings frames), rfl, ?_, by simp⟩
      rw [findings_of_head?_eq_none frames hhead, slots_of_head?_eq_none hhead, List.flatMap_map]
      rfl
  | some head =>
      cases t with
      | functionDef head decorators body =>
          obtain rfl := Option.some.inj hhead
          refine ⟨references frames (ownExprs (.functionDef head decorators body)),
            body.flatMap (findings (⟨.function, head.name⟩ :: frames)), ?_, ?_, hreferences⟩
          · rw [slots, List.flatMap_append, List.flatMap_append, flatMap_exprs_plain,
              flatMap_exprs_skipped _ _ _ (.inl rfl), flatMap_ofBody, List.append_nil]
            rfl
          · rw [findings_functionDef, List.append_assoc]
            rfl
      | classDef head decorators body =>
          obtain rfl := Option.some.inj hhead
          refine ⟨references frames (ownExprs (.classDef head decorators body)),
            body.flatMap (findings (⟨.classType, head.name⟩ :: frames)), ?_, ?_, hreferences⟩
          · rw [slots, List.flatMap_append, List.flatMap_append, flatMap_exprs_plain,
              flatMap_exprs_skipped _ _ _ (.inr rfl), flatMap_ofBody, List.append_nil]
            rfl
          · rw [findings_classDef, List.append_assoc]
            rfl
      | _ => cases hhead

/-- Definitions alone or mentions alone are found at a statement first and then in its parts, in
their order. -/
theorem filterMap_findings {β : Type} {pick : Finding → Option β}
    (hpick : (∀ frames head, pick (.definition frames head) = none) ∨
      ∀ frames o, pick (.reference frames o) = none) (t : Stmt) (frames : List Frame) :
    (t.findings frames).filterMap pick =
      ((t.head?.map (.definition frames)).bind pick).toList ++
        t.slots.flatMap fun slot => (t.slotFindings frames slot).filterMap pick := by
  obtain ⟨before, after, hslots, hfindings, hbefore⟩ := t.findings_eq frames
  rw [← List.filterMap_flatMap, hslots, hfindings, List.filterMap_append, List.filterMap_append,
    List.filterMap_append]
  -- A walk meets the definition after `before` and a list of places has it first; picking one kind
  -- of findings makes one of the two empty.
  rcases hpick with hpick | hpick
  · cases t.head? <;> simp [hpick]
  · have hnil : before.filterMap pick = [] := by
      rw [List.filterMap_eq_nil_iff]
      intro f hf
      obtain ⟨o, rfl⟩ := hbefore f hf
      exact hpick frames o
    rw [hnil]
    cases hhead : t.head? with
    | none => rfl
    | some head => cases hdef : pick (.definition frames head) <;> simp [hdef]

end Stmt

namespace Place

def frame? (p : Place) : Option Frame :=
  match p.part with
  | .stmt s => s.frame?
  | .expr _ => none

def frames (p : Place) : List Frame :=
  p.around.filterMap frame?

theorem frames_inside {p : Place} {index : Nat} {role : Role} {part : Part} (h : role ≠ .body) :
    (inside p index role part).frames = p.frames := by
  rw [frames, around, if_neg h, frames]

theorem frames_inside_body (p : Place) (index : Nat) (part : Part) :
    (inside p index .body part).frames = p.frame?.toList ++ p.frames := by
  rw [frames, around, if_pos rfl, List.filterMap_cons, frames]
  cases p.frame? <;> rfl

/-- What is selected at places agrees with what is picked from the findings of a walk, as far as
single statements and whole expressions go. -/
structure Selects {β : Type} (select : Place → Option β) (pick : Finding → Option β) : Prop where
  /-- Only definitions are picked, or only mentions. -/
  kind : (∀ frames head, pick (.definition frames head) = none) ∨
    ∀ frames o, pick (.reference frames o) = none
  /-- A statement has at most a definition of its own. -/
  own : ∀ (p : Place) (t : Stmt), p.part = .stmt t →
    select p = (t.head?.map (.definition p.frames)).bind pick
  /-- An expression of a statement has mentions. -/
  mentions : ∀ (p : Place) (e : Expr), p.part = .expr e → p.role? = some .plain →
    p.searched = true → p.places.filterMap select = (Stmt.references p.frames [e]).filterMap pick
  /-- Annotations and bases are passed over. -/
  skipped : ∀ (p : Place) (e : Expr), p.part = .expr e → p.searched = false →
    p.places.filterMap select = []

/-- What is selected at and below a statement is what is picked from its findings. -/
theorem Selects.of_stmt {β : Type} {select : Place → Option β} {pick : Finding → Option β}
    (h : Selects select pick) {p : Place} {t : Stmt} (hpart : p.part = .stmt t)
    (hsearched : p.searched = true) :
    p.places.filterMap select = (t.findings p.frames).filterMap pick := by
  induction p using induction_children generalizing t with
  | step p ih =>
      have hchildren : (p.children.flatMap fun c => c.places.filterMap select) =
          p.part.slots.flatMap fun slot => (t.slotFindings p.frames slot).filterMap pick := by
        refine flatMap_children ?_
        intro index role part hchild
        have hslot := mem_slots_of_mem_children hchild
        rw [hpart] at hslot
        -- The scope changes in a body, nothing is found in annotations and bases, and any other part
        -- is in the scope of the statement.
        rcases Stmt.mem_slots hslot with ⟨rfl, -, s, rfl⟩ | ⟨hrole, e, rfl⟩ | ⟨rfl, -⟩
        · rw [ih _ hchild rfl (by simp [searched, hsearched]), frames_inside_body, frame?, hpart]
          rfl
        · rw [h.skipped _ e rfl (by rcases hrole with rfl | rfl <;> simp [searched])]
          rcases hrole with rfl | rfl <;> rfl
        · have hplain : (inside p index .plain part).searched = true := by
            simp [searched, hsearched]
          have hframes : (inside p index .plain part).frames = p.frames := frames_inside nofun
          cases part with
          | expr e =>
              rw [h.mentions _ e rfl rfl hplain, hframes]
              rfl
          | stmt s =>
              rw [ih _ hchild rfl hplain, hframes]
              rfl
      rw [filterMap_places, h.own p t hpart, Stmt.filterMap_findings h.kind, hchildren, hpart]
      rfl

/-- What is selected in a module is what is picked from its findings. -/
theorem Selects.of_module {β : Type} {select : Place → Option β} {pick : Finding → Option β}
    (h : Selects select pick) (body : List Stmt) :
    (ofModule body).filterMap select = (moduleFindings body).filterMap pick := by
  rw [ofModule, moduleFindings, List.filterMap_flatMap, List.filterMap_flatMap]
  refine flatMap_mapIdx ?_
  intro index t _
  exact h.of_stmt rfl rfl

end Place

end CallAtlas.Source
