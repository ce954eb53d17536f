import CallAtlas.Text.Search

/-!
# Wildcards

Patterns for names: `*` stands for any characters, `?` for one, and brackets for one character out of
a set of characters and ranges, or, after `!`, for one outside it.  A bracket that is not closed
stands for itself.
-/

namespace CallAtlas.Project

/-- One piece of a pattern. -/
inductive Wildcard where
  | star
  | anything
  | exactly (c : Char)
  /-- One character within one of the ranges, or within none of them. -/
  | range (negated : Bool) (ranges : List (Char × Char))

namespace Wildcard

def holds : Wildcard → Char → Bool
  | .star, _ => false
  | .anything, _ => true
  | .exactly c, d => c == d
  | .range negated ranges, d => (ranges.any fun r => r.1 ≤ d && d ≤ r.2) != negated

def fits : List Wildcard → List Char → Bool
  | [], s => s.isEmpty
  | .star :: rest, s => Text.anyTail (fits rest) s
  | _ :: _, [] => false
  | piece :: rest, c :: s => piece.holds c && fits rest s

/-- The content of a bracket and what follows it, if the bracket is closed.  A closing bracket right
at the start belongs to the content. -/
def bracket? (s : List Char) : Option (List Char × List Char) :=
  let (first, rest) := match s with
    | '!' :: ']' :: rest => (['!', ']'], rest)
    | '!' :: rest => (['!'], rest)
    | ']' :: rest => ([']'], rest)
    | rest => ([], rest)
  match rest.dropWhile (· != ']') with
  | _ :: after => some (first ++ rest.takeWhile (· != ']'), after)
  | [] => none

/-- Cuts the content of a bracket at the hyphens that make a range.  The first chunk has at least
`least` characters, every other one at least two, the last one excepted. -/
def chunksFrom (least : Nat) (s : List Char) : List (List Char) :=
  match _ : (s.drop least).dropWhile (· != '-') with
  | [] => [s]
  | _ :: rest =>
    (s.take least ++ (s.drop least).takeWhile (· != '-')) :: chunksFrom 2 rest
termination_by s.length
decreasing_by
  have hl := (List.dropWhile_suffix (l := s.drop least) (· != '-')).length_le
  rename_i h
  rw [h] at hl
  simp only [List.length_cons, List.length_drop] at hl
  omega

/-- A hyphen at the very end belongs to the chunk before it. -/
def closeLast (chunks : List (List Char)) : List (List Char) :=
  match chunks.reverse with
  | [] :: before :: rest => ((before ++ ['-']) :: rest).reverse
  | _ => chunks

/-- Removes the ranges that are empty because their ends are in the wrong order. -/
def dropEmpty : List (List Char) → List (List Char)
  | [] => []
  | chunk :: rest =>
    match dropEmpty rest with
    | [] => [chunk]
    | next :: rest =>
      match chunk.getLast?, next with
      | some last, first :: tail =>
        if first < last then (chunk.dropLast ++ tail) :: rest else chunk :: next :: rest
      | _, _ => chunk :: next :: rest

/-- The ranges that chunks denote: each character for itself, and a range between the last character
of a chunk and the first one of the next. -/
def ranges : List (List Char) → List (Char × Char)
  | [] => []
  | [chunk] => chunk.map fun c => (c, c)
  | chunk :: next :: rest =>
    let between := match chunk.getLast?, next.head? with
      | some a, some b => (a, b)
      | _, _ => ('-', '-')
    chunk.map (fun c => (c, c)) ++ between :: ranges (next :: rest)

def ofBracket (content : List Char) : Wildcard :=
  let least := if content.head? == some '!' then 2 else 1
  match dropEmpty (closeLast (chunksFrom least content)) with
  | ('!' :: chunk) :: rest =>
    if chunk.isEmpty && rest.isEmpty then .anything else .range true (ranges (chunk :: rest))
  | chunks => .range false (ranges chunks)

theorem length_bracket? {s content after : List Char} (h : bracket? s = some (content, after)) :
    after.length < s.length := by
  unfold bracket? at h
  generalize hs : (match s with
    | '!' :: ']' :: rest => (['!', ']'], rest)
    | '!' :: rest => (['!'], rest)
    | ']' :: rest => ([']'], rest)
    | rest => ([], rest)) = split at h
  have hle : split.2.length ≤ s.length := by
    subst hs
    split
    · exact Nat.le_succ_of_le (Nat.le_succ _)
    · exact Nat.le_succ _
    · exact Nat.le_succ _
    · exact Nat.le_refl _
  obtain ⟨first, rest⟩ := split
  simp only at h hle
  cases hd : rest.dropWhile (· != ']') with
  | nil => simp [hd] at h
  | cons c tail =>
    simp only [hd, Option.some.injEq, Prod.mk.injEq] at h
    have hl := (List.dropWhile_suffix (l := rest) (· != ']')).length_le
    rw [hd] at hl
    simp only [List.length_cons] at hl
    rw [← h.2]
    omega

def parse (s : List Char) : List Wildcard :=
  match s with
  | [] => []
  | '*' :: rest => .star :: parse rest
  | '?' :: rest => .anything :: parse rest
  | c :: rest =>
    if c = '[' then
      match _ : bracket? rest with
      | some (content, after) => ofBracket content :: parse after
      | none => .exactly c :: parse rest
    else .exactly c :: parse rest
termination_by s.length
decreasing_by
  all_goals simp only [List.length_cons]
  all_goals first
    | omega
    | exact Nat.lt_succ_of_lt (length_bracket? (by assumption))

def matchesText (pattern text : String) : Bool :=
  fits (parse pattern.toList) text.toList

end Wildcard

end CallAtlas.Project
