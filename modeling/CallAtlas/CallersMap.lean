/-!
# Callers maps

Maps from methods to the methods that call them, as association lists without repeated keys whose
values are lists without repeated elements.  Keys stand in the order of their first insertion.
-/

namespace CallAtlas

abbrev CallersMap := List (String × List String)

namespace CallersMap

def insertNew (set : List String) (id : String) : List String :=
  if set.contains id then set else set ++ [id]

def union (set ids : List String) : List String :=
  ids.foldl insertNew set

@[simp]
theorem mem_insertNew {set : List String} {id x : String} :
    x ∈ insertNew set id ↔ x ∈ set ∨ x = id := by
  unfold insertNew
  split
  · rename_i h
    have h := List.contains_iff_mem.1 h
    constructor
    · exact Or.inl
    · rintro (hx | rfl)
      · exact hx
      · exact h
  · simp

@[simp]
theorem mem_union {set ids : List String} {x : String} :
    x ∈ union set ids ↔ x ∈ set ∨ x ∈ ids := by
  induction ids generalizing set with
  | nil => simp [union]
  | cons id ids ih =>
    rw [union, List.foldl_cons, ← union, ih, mem_insertNew, List.mem_cons, or_assoc]

/-- Adds callers to those of a method, which becomes a key. -/
def add (key : String) (callers : List String) : CallersMap → CallersMap
  | [] => [(key, union [] callers)]
  | (k, cs) :: rest =>
    if k = key then (k, union cs callers) :: rest else (k, cs) :: add key callers rest

def keys (m : CallersMap) : List String := m.map (·.1)

def callersOf (m : CallersMap) (key : String) : List String := (m.lookup key).getD []

/-- Adds all entries of the second map to the first. -/
def merge (m other : CallersMap) : CallersMap :=
  other.foldl (fun m entry => add entry.1 entry.2 m) m

/-- The union of maps, key by key. -/
def mergeAll (maps : List CallersMap) : CallersMap :=
  maps.foldl merge []

/-- The map from callers to callees as a map from callees to callers, and the reverse. -/
def invert (m : CallersMap) : CallersMap :=
  m.foldl (fun inverted entry =>
    entry.2.foldl (fun inverted id => add id [entry.1] inverted) inverted) []

def count : CallersMap → Nat
  | [] => 0
  | entry :: rest => entry.2.length + count rest

end CallersMap

end CallAtlas
