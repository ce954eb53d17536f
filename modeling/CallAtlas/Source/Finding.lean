import CallAtlas.Source.Occurrence
import CallAtlas.Source.Stmt

/-!
# Definitions and references of a module

A walk through the statements of a module finds its definitions and the mentions of names in them,
each with the definitions it is nested in.  Decorators, defaults and class keywords belong to the
scope outside their definition.  Annotations of functions and bases of classes are not searched.
-/

namespace CallAtlas.Source

inductive FrameKind where
  | function
  | classType
deriving DecidableEq

/-- An enclosing definition. -/
structure Frame where
  kind : FrameKind
  name : Ident
deriving DecidableEq

namespace Frame

/-- The dotted path of enclosing definitions, which are given innermost first. -/
def path (frames : List Frame) : List Ident :=
  (frames.map (·.name)).reverse

def functions : List Frame → List (List Ident)
  | [] => []
  | f :: outer =>
    if f.kind = .function then path (f :: outer) :: functions outer else functions outer

/-- Path of the nearest enclosing class. -/
def nearestClass : List Frame → Option (List Ident)
  | [] => none
  | f :: outer => if f.kind = .classType then some (path (f :: outer)) else nearestClass outer

end Frame

/-- The head of a definition. -/
inductive Head where
  | function (head : FunctionHead)
  | classType (head : ClassHead)

/-- What a walk through a module finds, with the enclosing definitions, innermost first. -/
inductive Finding where
  | definition (frames : List Frame) (head : Head)
  | reference (frames : List Frame) (occurrence : Occurrence)

namespace Stmt

/-! ## Walking ends -/

theorem sizeOf_lt_of_mem_ofBody {s : Stmt} {body : List Stmt} (h : Part.stmt s ∈ Part.ofBody body) :
    sizeOf s < sizeOf body := by
  simp [Part.ofBody] at h
  exact List.sizeOf_lt_of_mem h

theorem stmt_not_mem_ofExprs {s : Stmt} {es : List Expr} : Part.stmt s ∉ Part.ofExprs es := by
  simp [Part.ofExprs]

theorem sizeOf_lt_of_mem_handlers {s : Stmt} {handlers : List (Handler Stmt)}
    (h : Part.stmt s ∈ handlers.flatMap (·.parts)) : sizeOf s < sizeOf handlers := by
  obtain ⟨x, hx, h⟩ := List.mem_flatMap.1 h
  have hlt := List.sizeOf_lt_of_mem hx
  rcases List.mem_append.1 h with h | h
  · exact absurd h stmt_not_mem_ofExprs
  · have := sizeOf_lt_of_mem_ofBody h
    cases x
    simp_all
    omega

theorem sizeOf_lt_of_mem_cases {s : Stmt} {cases : List (Case Stmt)}
    (h : Part.stmt s ∈ cases.flatMap (·.parts)) : sizeOf s < sizeOf cases := by
  obtain ⟨x, hx, h⟩ := List.mem_flatMap.1 h
  have hlt := List.sizeOf_lt_of_mem hx
  rcases List.mem_append.1 h with h | h
  · exact absurd h stmt_not_mem_ofExprs
  · have := sizeOf_lt_of_mem_ofBody h
    cases x
    simp_all
    omega

theorem sizeOf_append_le (xs ys : List Stmt) : sizeOf (xs ++ ys) ≤ sizeOf xs + sizeOf ys := by
  induction xs with
  | nil => simp
  | cons x xs ih => simp; omega

theorem sizeOf_lt_of_mem_parts {t s : Stmt} (h : Part.stmt s ∈ t.parts) : sizeOf s < sizeOf t := by
  have exprs : ∀ {es : List Expr} {body : List Stmt},
      Part.stmt s ∈ Part.ofExprs es ++ Part.ofBody body → sizeOf s < sizeOf body := fun h => by
    rcases List.mem_append.1 h with h | h
    · exact absurd h stmt_not_mem_ofExprs
    · exact sizeOf_lt_of_mem_ofBody h
  cases t with
  | functionDef head decorators body => have := exprs h; simp; omega
  | classDef head decorators body => have := exprs h; simp; omega
  | ret value => exact absurd h stmt_not_mem_ofExprs
  | delete targets => exact absurd h stmt_not_mem_ofExprs
  | assign targets value => exact absurd h stmt_not_mem_ofExprs
  | augAssign target op value => exact absurd h stmt_not_mem_ofExprs
  | annAssign target annotation value => exact absurd h stmt_not_mem_ofExprs
  | forLoop isAsync target source body orelse =>
    have := exprs h
    have := sizeOf_append_le body orelse
    simp; omega
  | whileLoop test body orelse =>
    have := exprs h
    have := sizeOf_append_le body orelse
    simp; omega
  | ifElse test body orelse =>
    have := exprs h
    have := sizeOf_append_le body orelse
    simp; omega
  | withBlock isAsync items body =>
    rcases List.mem_append.1 h with h | h
    · obtain ⟨x, _, h⟩ := List.mem_flatMap.1 h
      exact absurd h stmt_not_mem_ofExprs
    · have := sizeOf_lt_of_mem_ofBody h
      simp; omega
  | matchOn subject cases =>
    rcases List.mem_cons.1 h with h | h
    · simp at h
    · have := sizeOf_lt_of_mem_cases h
      simp; omega
  | raise error cause => exact absurd h stmt_not_mem_ofExprs
  | tryBlock isGroup body handlers orelse final =>
    rcases List.mem_append.1 h with h | h
    · rcases List.mem_append.1 h with h | h
      · have := sizeOf_lt_of_mem_ofBody h
        simp; omega
      · have := sizeOf_lt_of_mem_handlers h
        simp; omega
    · have := sizeOf_lt_of_mem_ofBody h
      have := sizeOf_append_le orelse final
      simp; omega
  | assert test message => exact absurd h stmt_not_mem_ofExprs
  | importModules names => simp [parts] at h
  | importFrom level module names => simp [parts] at h
  | global names => simp [parts] at h
  | nonlocal names => simp [parts] at h
  | expr value => exact absurd h stmt_not_mem_ofExprs
  | pass => simp [parts] at h
  | «break» => simp [parts] at h
  | «continue» => simp [parts] at h

/-! ## The walk -/

def references (frames : List Frame) (es : List Expr) : List Finding :=
  es.flatMap fun e => e.occurrences.map (.reference frames)

/-- What a statement holds, in the order of the walk. -/
def findings (frames : List Frame) (t : Stmt) : List Finding :=
  match t with
  | .functionDef head decorators body =>
    references frames
        (decorators ++ head.params.defaults ++ head.params.keywordDefaults.filterMap id) ++
      .definition frames (.function head) ::
        body.attach.flatMap fun ⟨s, _⟩ => s.findings (⟨.function, head.name⟩ :: frames)
  | .classDef head decorators body =>
    references frames (decorators ++ head.keywords.map (·.value)) ++
      .definition frames (.classType head) ::
        body.attach.flatMap fun ⟨s, _⟩ => s.findings (⟨.classType, head.name⟩ :: frames)
  | other =>
    other.parts.attach.flatMap fun
      | ⟨.expr e, _⟩ => references frames [e]
      | ⟨.stmt s, _⟩ => s.findings frames
termination_by sizeOf t
decreasing_by
  · have := List.sizeOf_lt_of_mem ‹_›
    simp; omega
  · have := List.sizeOf_lt_of_mem ‹_›
    simp; omega
  · exact sizeOf_lt_of_mem_parts ‹_›

end Stmt

def moduleFindings (body : List Stmt) : List Finding :=
  body.flatMap (Stmt.findings [])

end CallAtlas.Source
