import CallAtlas.Symbol.Extract
import Mathlib.Data.List.Basic

/-!
# What a walk finds

A finding in a statement is a mention in one of its own expressions, the statement's own definition,
or a finding in one of the statements it holds, seen from the statement's scope.  From this it
follows that a walk finds the definition of every function around a mention.
-/

namespace CallAtlas.Source

/-- The findings of a walk hold the definition of the function with the given path. -/
def DefinesFunction (found : List Finding) (p : List Ident) : Prop :=
  ∃ frames head, .definition frames (.function head) ∈ found ∧
    p = Frame.path (⟨.function, head.name⟩ :: frames)

namespace Stmt

/-- Induction over the statements that a statement holds. -/
theorem induction_parts {motive : Stmt → Prop}
    (step : ∀ t, (∀ s, Part.stmt s ∈ t.parts → motive s) → motive t) (t : Stmt) : motive t :=
  step t fun s _ => induction_parts step s
termination_by sizeOf t
decreasing_by exact sizeOf_lt_of_mem_parts ‹_›

/-- The frame that a definition adds to the scope of its body. -/
def frame? : Stmt → Option Frame
  | .functionDef head _ _ => some ⟨.function, head.name⟩
  | .classDef head _ _ => some ⟨.classType, head.name⟩
  | _ => none

/-- The scope of the statements that a statement holds. -/
def inner (t : Stmt) (frames : List Frame) : List Frame := t.frame?.toList ++ frames

def head? : Stmt → Option Head
  | .functionDef head _ _ => some (.function head)
  | .classDef head _ _ => some (.classType head)
  | _ => none

def ownExprs : Stmt → List Expr
  | .functionDef head decorators _ =>
    decorators ++ head.params.defaults ++ head.params.keywordDefaults.filterMap id
  | .classDef head decorators _ => decorators ++ head.keywords.map (·.value)
  | other => other.parts.filterMap fun
    | .expr e => some e
    | .stmt _ => none

theorem findings_functionDef (frames : List Frame) (head : FunctionHead) (decorators : List Expr)
    (body : List Stmt) :
    findings frames (.functionDef head decorators body) =
      references frames (ownExprs (.functionDef head decorators body)) ++
      .definition frames (.function head) ::
        body.flatMap (findings (⟨.function, head.name⟩ :: frames)) := by
  rw [findings]
  simp [ownExprs]

theorem findings_classDef (frames : List Frame) (head : ClassHead) (decorators : List Expr)
    (body : List Stmt) :
    findings frames (.classDef head decorators body) =
      references frames (ownExprs (.classDef head decorators body)) ++
      .definition frames (.classType head) ::
        body.flatMap (findings (⟨.classType, head.name⟩ :: frames)) := by
  rw [findings]
  simp [ownExprs]

def partFindings (frames : List Frame) : Part → List Finding
  | .expr e => references frames [e]
  | .stmt s => s.findings frames

theorem findings_of_head?_eq_none {t : Stmt} (frames : List Frame) (h : t.head? = none) :
    t.findings frames = t.parts.flatMap (partFindings frames) := by
  rw [findings]
  · rw [List.flatMap_subtype (g := partFindings frames), List.unattach_attach]
    rintro (e | s) hpart
    · rfl
    · rfl
  · rintro head decorators body rfl
    cases h
  · rintro head decorators body rfl
    cases h

theorem inner_of_head?_eq_none {t : Stmt} (frames : List Frame) (h : t.head? = none) :
    t.inner frames = frames := by
  cases t <;> first | rfl | cases h

theorem mem_ownExprs_of_head?_eq_none {t : Stmt} (h : t.head? = none) {e : Expr} :
    e ∈ t.ownExprs ↔ Part.expr e ∈ t.parts := by
  have hown : t.ownExprs = t.parts.filterMap fun
      | .expr e => some e
      | .stmt _ => none := by
    cases t <;> first | rfl | cases h
  rw [hown, List.mem_filterMap]
  constructor
  · rintro ⟨e | s, hpart, heq⟩
    · obtain rfl := Option.some.inj heq
      exact hpart
    · cases heq
  · intro hpart
    exact ⟨.expr e, hpart, rfl⟩

theorem mem_references {frames : List Frame} {es : List Expr} {f : Finding} :
    f ∈ references frames es ↔ ∃ e ∈ es, ∃ o ∈ e.occurrences, f = .reference frames o := by
  simp [references, eq_comm]

/-- A finding in a statement is a mention in its own expressions, its own definition, or a finding
in a statement that it holds. -/
theorem mem_findings {t : Stmt} {frames : List Frame} {f : Finding} :
    f ∈ t.findings frames ↔
      f ∈ references frames t.ownExprs ∨
      (∃ head, t.head? = some head ∧ f = .definition frames head) ∨
      ∃ s, Part.stmt s ∈ t.parts ∧ f ∈ s.findings (t.inner frames) := by
  cases hhead : t.head? with
  | none =>
      rw [findings_of_head?_eq_none frames hhead, inner_of_head?_eq_none frames hhead,
        List.mem_flatMap, mem_references]
      simp only [mem_ownExprs_of_head?_eq_none hhead]
      constructor
      · rintro ⟨e | s, hpart, h⟩
        · obtain ⟨e', he', o, ho, rfl⟩ := mem_references.1 h
          obtain rfl := List.mem_singleton.1 he'
          exact .inl ⟨e', hpart, o, ho, rfl⟩
        · exact .inr (.inr ⟨s, hpart, h⟩)
      · rintro (⟨e, hpart, o, ho, rfl⟩ | ⟨head, hnone, -⟩ | ⟨s, hpart, h⟩)
        · exact ⟨.expr e, hpart, mem_references.2 ⟨e, List.mem_singleton_self e, o, ho, rfl⟩⟩
        · cases hnone
        · exact ⟨.stmt s, hpart, h⟩
  | some head =>
      cases t with
      | functionDef head decorators body =>
          obtain rfl := Option.some.inj hhead
          rw [findings_functionDef, List.mem_append, List.mem_cons, List.mem_flatMap]
          simp [parts, inner, frame?, Part.ofExprs, Part.ofBody]
      | classDef head decorators body =>
          obtain rfl := Option.some.inj hhead
          rw [findings_classDef, List.mem_append, List.mem_cons, List.mem_flatMap]
          simp [parts, inner, frame?, Part.ofExprs, Part.ofBody]
      | _ => cases hhead

theorem mem_functions_inner {t : Stmt} {frames : List Frame} {p : List Ident}
    (h : p ∈ Frame.functions (t.inner frames)) :
    p ∈ Frame.functions frames ∨ DefinesFunction (t.findings frames) p := by
  cases t with
  | functionDef head decorators body =>
      rcases List.mem_cons.1 h with rfl | h
      · exact .inr ⟨frames, head, mem_findings.2 (.inr (.inl ⟨_, rfl, rfl⟩)), rfl⟩
      · exact .inl h
  | classDef head decorators body => exact .inl h
  | _ => exact .inl h

/-- A function around a mention is one around the whole statement, or the walk finds its
definition. -/
theorem mem_functions_of_reference {t : Stmt} {outer frames : List Frame} {o : Occurrence}
    (h : .reference frames o ∈ t.findings outer) {p : List Ident} (hp : p ∈ Frame.functions frames) :
    p ∈ Frame.functions outer ∨ DefinesFunction (t.findings outer) p := by
  induction t using induction_parts generalizing outer with
  | step t ih =>
      rcases mem_findings.1 h with h | ⟨head, -, h⟩ | ⟨s, hs, h⟩
      · obtain ⟨e, -, o', -, heq⟩ := mem_references.1 h
        obtain ⟨rfl, -⟩ := Finding.reference.inj heq
        exact .inl hp
      · cases h
      · rcases ih s hs h with hp | ⟨frames', head, hdef, rfl⟩
        · exact mem_functions_inner hp
        · exact .inr ⟨frames', head, mem_findings.2 (.inr (.inr ⟨s, hs, hdef⟩)), rfl⟩

end Stmt

/-- A walk through a module finds the definition of every function around a mention. -/
theorem definesFunction_of_reference {body : List Stmt} {frames : List Frame} {o : Occurrence}
    (h : .reference frames o ∈ moduleFindings body) {p : List Ident}
    (hp : p ∈ Frame.functions frames) : DefinesFunction (moduleFindings body) p := by
  obtain ⟨t, ht, h⟩ := List.mem_flatMap.1 h
  rcases Stmt.mem_functions_of_reference h hp with hp | ⟨frames', head, hdef, rfl⟩
  · cases hp
  · exact ⟨frames', head, List.mem_flatMap.2 ⟨t, ht, hdef⟩, rfl⟩

end CallAtlas.Source
