import CallAtlas.CallersMap

/-!
# Callers maps in place

Maps and sets are objects that can be changed.  A map refers to the sets of its keys, so that a set
may stand at several keys, of one map or of several ones, and whoever changes it changes it for all
of them.  Merging and inverting make a new map, whose sets are changed entry by entry while the
entries of the given maps are read.
-/

namespace CallAtlas.CallersMap

/-- Where an object is found. -/
abbrev Address := Nat

/-- The maps and the sets that there are.  A map has for each key the address of a set. -/
structure Store where
  maps : List (List (String × Address))
  sets : List (List String)

namespace Store

def entries (s : Store) (map : Address) : List (String × Address) := s.maps.getD map []

def elements (s : Store) (set : Address) : List String := s.sets.getD set []

def read (s : Store) (map : Address) : CallersMap :=
  (s.entries map).map fun entry => (entry.1, s.elements entry.2)

/-- The store with one more map, all of whose sets are new. -/
def push (s : Store) (m : CallersMap) : Store where
  maps := s.maps ++ [m.keys.zipIdx s.sets.length]
  sets := s.sets ++ m.map (·.2)

def newMap (s : Store) : Address × Store := (s.maps.length, s.push [])

/-- The set at a key of a map.  A key that the map does not have gets a new, empty set. -/
def setAt (s : Store) (map : Address) (key : String) : Address × Store :=
  match (s.entries map).lookup key with
  | some set => (set, s)
  | none =>
    let set := s.sets.length
    (set, { maps := s.maps.modify map (· ++ [(key, set)]), sets := s.sets ++ [[]] })

def update (s : Store) (set : Address) (ids : List String) : Store :=
  { s with sets := s.sets.modify set fun elements => union elements ids }

/-- Adds elements, which may be those of another set, to the set at a key of a map. -/
def addAt (s : Store) (map : Address) (key : String) (ids : Store → List String) : Store :=
  let (set, s) := s.setAt map key
  s.update set (ids s)

/-- Merges maps into a new one. -/
def mergeAll (s : Store) (maps : List Address) : Address × Store :=
  let (merged, s) := s.newMap
  (merged, maps.foldl (fun s map =>
    (s.entries map).foldl (fun s entry => s.addAt merged entry.1 (elements · entry.2)) s) s)

/-- Makes a new map from the elements of the sets of a map to the keys they stand at. -/
def invert (s : Store) (map : Address) : Address × Store :=
  let (inverted, s) := s.newMap
  (inverted, (s.entries map).foldl (fun s entry =>
    (s.elements entry.2).foldl (fun s id => s.addAt inverted id fun _ => [entry.1]) s) s)

end Store

end CallAtlas.CallersMap
