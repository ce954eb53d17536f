import CallAtlas.Source.Expr

/-!
# Occurrences of names

Which names an expression mentions.  A chain is a name followed by attributes, or attributes
hanging off some other expression; it is recorded once, as a whole, by its dotted text.  A chain
that is called is a call; any other chain that is read is a plain reference.  What a chain hangs off
is searched in turn, unless it is a name, which belongs to the chain.
-/

namespace CallAtlas.Source

inductive ReferenceKind where
  | calls
  | references
deriving DecidableEq

def ReferenceKind.text : ReferenceKind → String
  | .calls => "calls"
  | .references => "references"

/-- One mention of a dotted name. -/
structure Occurrence where
  kind : ReferenceKind
  target : List Ident
  line : Nat
deriving DecidableEq

namespace Expr

/-- The dotted name of a chain; a root that is no name is left out. -/
def chain : Expr → List Ident
  | .name id _ _ => [id]
  | .member value attr _ _ => value.chain ++ [attr]
  | _ => []

/-- What the attributes of a chain hang off. -/
def root : Expr → Expr
  | .member value _ _ _ => value.root
  | e => e

/-- The root of a chain if it is to be searched: a name belongs to the chain. -/
def anchor (e : Expr) : List Expr :=
  match e.root with
  | .name .. => []
  | r => [r]

def ownOccurrence : Expr → List Occurrence
  | .name id .load line => [⟨.references, [id], line⟩]
  | .member value attr .load line => [⟨.references, value.chain ++ [attr], line⟩]
  | .call (.name id _ _) _ _ line => [⟨.calls, [id], line⟩]
  | .call (.member value attr _ _) _ _ line => [⟨.calls, value.chain ++ [attr], line⟩]
  | _ => []

/-- The expressions still to be searched after an expression's own mention. -/
def searched : Expr → List Expr
  | .name .. => []
  | .member value _ _ _ => value.anchor
  | .call func args keywords _ => func.anchor ++ args ++ keywords.map (·.value)
  | e => e.children

/-! ## Searching ends -/

theorem sizeOf_root_le (e : Expr) : sizeOf e.root ≤ sizeOf e := by
  induction e using root.induct with
  | case1 value attr usage line ih => simp [root]; omega
  | case2 e h => simp [root]

theorem sizeOf_le_of_mem_anchor {e c : Expr} (h : c ∈ e.anchor) : sizeOf c ≤ sizeOf e := by
  have := e.sizeOf_root_le
  unfold anchor at h
  split at h
  · simp at h
  · simp at h
    subst h
    exact this

theorem sizeOf_keyword_lt {k : Keyword Expr} {ks : List (Keyword Expr)} (h : k ∈ ks) :
    sizeOf k.value < sizeOf ks := by
  have := List.sizeOf_lt_of_mem h
  cases k
  simp_all
  omega

theorem sizeOf_clause_lt {c : Clause Expr} {cs : List (Clause Expr)} {e : Expr}
    (h : c ∈ cs) (he : e ∈ c.parts) : sizeOf e < sizeOf cs := by
  have hc := List.sizeOf_lt_of_mem h
  cases c with
  | mk isAsync target source conditions =>
    simp [Clause.parts] at he
    simp at hc
    rcases he with rfl | rfl | he
    · omega
    · omega
    · have := List.sizeOf_lt_of_mem he
      omega

theorem sizeOf_toList_lt {e : Expr} {o : Option Expr} (h : e ∈ o.toList) :
    sizeOf e < sizeOf o := by
  cases o <;> simp_all

theorem sizeOf_annotation_lt {e : Expr} {p : Param Expr} {ps : List (Param Expr)} (h : p ∈ ps)
    (he : p.annotation = some e) : sizeOf e < sizeOf ps := by
  have := List.sizeOf_lt_of_mem h
  cases p
  simp_all
  omega

theorem sizeOf_params_lt {e : Expr} {ps : Params Expr} (h : e ∈ ps.exprs) :
    sizeOf e < sizeOf ps := by
  obtain ⟨positionalOnly, ordinary, variadic, keywordOnly, keywordDefaults, keywordVariadic,
    defaults⟩ := ps
  simp only [Params.exprs, List.mem_append, List.mem_filterMap, Option.mem_toList,
    Params.mk.sizeOf_spec] at h ⊢
  rcases h with ((⟨p, ((h | h) | rfl) | h, he⟩ | ⟨o, h, rfl⟩) | ⟨p, rfl, he⟩) | h
  · have := sizeOf_annotation_lt h he
    omega
  · have := sizeOf_annotation_lt h he
    omega
  · cases p
    simp_all
    omega
  · have := sizeOf_annotation_lt h he
    omega
  · have := List.sizeOf_lt_of_mem h
    simp at this
    omega
  · cases p
    simp_all
    omega
  · have := List.sizeOf_lt_of_mem h
    omega

theorem sizeOf_lt_of_mem_children {e c : Expr} (h : c ∈ e.children) : sizeOf c < sizeOf e := by
  cases e with
  | name id usage line => simp [children] at h
  | member value attr usage line => simp [children] at h; subst h; simp; omega
  | call func args keywords line =>
    simp [children] at h
    rcases h with rfl | h | ⟨k, hk, rfl⟩
    · simp; omega
    · have := List.sizeOf_lt_of_mem h
      simp; omega
    · have := sizeOf_keyword_lt hk
      simp; omega
  | literal value => simp [children] at h
  | boolOp op values =>
    have : sizeOf c < sizeOf values := List.sizeOf_lt_of_mem h
    simp; omega
  | named target value =>
    simp [children] at h
    rcases h with rfl | rfl
    · simp only [named.sizeOf_spec]; omega
    · simp only [named.sizeOf_spec]; omega
  | binary left op right =>
    simp [children] at h
    rcases h with rfl | rfl
    · simp only [binary.sizeOf_spec]; omega
    · simp only [binary.sizeOf_spec]; omega
  | unary op operand =>
    simp only [children, List.mem_singleton] at h
    subst h
    simp only [unary.sizeOf_spec]
    omega
  | lambda params body =>
    simp [children] at h
    rcases h with h | rfl
    · have := sizeOf_params_lt h
      simp only [lambda.sizeOf_spec]
      omega
    · simp only [lambda.sizeOf_spec]
      omega
  | conditional test body orelse =>
    simp [children] at h; rcases h with rfl | rfl | rfl <;> simp <;> omega
  | dict entries =>
    simp [children] at h
    rcases h with ⟨x, hx, h⟩ | ⟨x, hx, rfl⟩
    · have := List.sizeOf_lt_of_mem hx
      cases x
      simp_all; omega
    · have := List.sizeOf_lt_of_mem hx
      cases x
      simp_all; omega
  | set elements =>
    have : sizeOf c < sizeOf elements := List.sizeOf_lt_of_mem h
    simp; omega
  | listComp element clauses =>
    simp [children] at h
    rcases h with rfl | ⟨c', hc, h⟩
    · simp; omega
    · have := sizeOf_clause_lt hc h
      simp; omega
  | setComp element clauses =>
    simp [children] at h
    rcases h with rfl | ⟨c', hc, h⟩
    · simp; omega
    · have := sizeOf_clause_lt hc h
      simp; omega
  | dictComp key value clauses =>
    simp [children] at h
    rcases h with rfl | rfl | ⟨c', hc, h⟩
    · simp; omega
    · simp; omega
    · have := sizeOf_clause_lt hc h
      simp; omega
  | generator element clauses =>
    simp [children] at h
    rcases h with rfl | ⟨c', hc, h⟩
    · simp; omega
    · have := sizeOf_clause_lt hc h
      simp; omega
  | await value => simp [children] at h; subst h; simp
  | yield value => have := sizeOf_toList_lt h; simp; omega
  | yieldFrom value => simp [children] at h; subst h; simp
  | compare left ops comparators =>
    simp [children] at h
    rcases h with rfl | h
    · simp; omega
    · have := List.sizeOf_lt_of_mem h
      simp; omega
  | formatted value conversion spec =>
    rcases List.mem_cons.1 h with rfl | h
    · simp; omega
    · have := sizeOf_toList_lt h
      simp; omega
  | joined parts =>
    have : sizeOf c < sizeOf parts := List.sizeOf_lt_of_mem h
    simp; omega
  | subscript value index =>
    simp [children] at h
    rcases h with rfl | rfl
    · simp only [subscript.sizeOf_spec]; omega
    · simp only [subscript.sizeOf_spec]; omega
  | starred value => simp [children] at h; subst h; simp
  | list elements =>
    have : sizeOf c < sizeOf elements := List.sizeOf_lt_of_mem h
    simp; omega
  | tuple elements =>
    have : sizeOf c < sizeOf elements := List.sizeOf_lt_of_mem h
    simp; omega
  | slice lower upper step =>
    rcases List.mem_append.1 h with h | h
    · rcases List.mem_append.1 h with h | h <;> have := sizeOf_toList_lt h <;> simp <;> omega
    · have := sizeOf_toList_lt h
      simp; omega

theorem sizeOf_lt_of_mem_searched {e c : Expr} (h : c ∈ e.searched) : sizeOf c < sizeOf e := by
  unfold searched at h
  split at h
  · simp at h
  · have := sizeOf_le_of_mem_anchor h
    simp; omega
  · simp at h
    rcases h with h | h | ⟨k, hk, rfl⟩
    · have := sizeOf_le_of_mem_anchor h
      simp; omega
    · have := List.sizeOf_lt_of_mem h
      simp; omega
    · have := sizeOf_keyword_lt hk
      simp; omega
  · exact sizeOf_lt_of_mem_children h

/-- All mentions of names in an expression, in the order of the search. -/
def occurrences (e : Expr) : List Occurrence :=
  e.ownOccurrence ++ e.searched.attach.flatMap fun ⟨c, _⟩ => c.occurrences
termination_by sizeOf e
decreasing_by exact sizeOf_lt_of_mem_searched (by assumption)

end Expr

end CallAtlas.Source
