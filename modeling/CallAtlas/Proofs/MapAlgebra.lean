import CallAtlas.CallersMap.InPlace
import CallAtlas.Proofs.CallersMap
import Mathlib.Data.List.GetD
import Mathlib.Data.List.Induction

/-!
# The algebra of callers maps

As relations between keys and callers, maps are merged by union and inverted by taking the converse.
Both make a new map out of maps that may share their sets.  The sets of the new map are changed in
place as long as it is made, but they are all new, so whatever there was before stays as it was.
-/

namespace CallAtlas.CallersMap

/-- Two maps are the same relation: they have the same keys and the same callers at each. -/
structure Same (m m' : CallersMap) : Prop where
  mem_keys : ∀ k, k ∈ m.keys ↔ k ∈ m'.keys
  mem_callersOf : ∀ k x, x ∈ m.callersOf k ↔ x ∈ m'.callersOf k

theorem mergeAll_concat (maps : List CallersMap) (m : CallersMap) :
    mergeAll (maps ++ [m]) = merge (mergeAll maps) m := by
  rw [mergeAll, List.foldl_append, ← mergeAll]
  rfl

theorem mem_keys_mergeAll {maps : List CallersMap} {k : String} :
    k ∈ (mergeAll maps).keys ↔ ∃ m ∈ maps, k ∈ m.keys := by
  induction maps using List.reverseRecOn with
  | nil => simp [mergeAll, keys]
  | append_singleton maps m ih =>
      rw [mergeAll_concat, mem_keys_merge, ih]
      simp [or_and_right, exists_or]

theorem mem_callersOf_mergeAll {maps : List CallersMap} (wellFormed : ∀ m ∈ maps, m.WellFormed)
    {k x : String} : x ∈ (mergeAll maps).callersOf k ↔ ∃ m ∈ maps, x ∈ m.callersOf k := by
  induction maps using List.reverseRecOn with
  | nil => simp [mergeAll, callersOf]
  | append_singleton maps m ih =>
      obtain ⟨hmaps, hm⟩ := List.forall_mem_append.1 wellFormed
      have hentries := (List.forall_mem_singleton.1 hm).mem_callersOf_iff (k := k) (x := x)
      rw [mergeAll_concat, mem_callersOf_merge, ih hmaps, ← hentries]
      simp [or_and_right, exists_or]

section

variable {maps : List CallersMap}

/-- What is merged does not depend on how often a map occurs, and where. -/
theorem same_mergeAll (wellFormed : ∀ m ∈ maps, m.WellFormed) {maps' : List CallersMap}
    (h : ∀ m, m ∈ maps' ↔ m ∈ maps) : Same (mergeAll maps') (mergeAll maps) := by
  have wellFormed' : ∀ m ∈ maps', m.WellFormed := fun m hm => wellFormed m ((h m).1 hm)
  constructor
  · intro k
    simp only [mem_keys_mergeAll, h]
  · intro k x
    simp only [mem_callersOf_mergeAll wellFormed, mem_callersOf_mergeAll wellFormed', h]

/-- Some of the maps may be merged before all of them are. -/
theorem same_mergeAll_group {before inner after : List CallersMap}
    (wellFormed : ∀ m ∈ before ++ inner ++ after, m.WellFormed) :
    Same (mergeAll (before ++ mergeAll inner :: after)) (mergeAll (before ++ inner ++ after)) := by
  obtain ⟨hfront, hafter⟩ := List.forall_mem_append.1 wellFormed
  obtain ⟨hbefore, hinner⟩ := List.forall_mem_append.1 hfront
  have hgrouped : ∀ m ∈ before ++ mergeAll inner :: after, m.WellFormed :=
    List.forall_mem_append.2 ⟨hbefore, List.forall_mem_cons.2 ⟨.mergeAll inner, hafter⟩⟩
  constructor
  · intro k
    simp only [mem_keys_mergeAll, List.mem_append, List.mem_cons, or_and_right, exists_or,
      exists_eq_left, or_assoc]
  · intro k x
    simp only [mem_callersOf_mergeAll wellFormed, mem_callersOf_mergeAll hgrouped,
      List.mem_append, List.mem_cons, or_and_right, exists_or, exists_eq_left, or_assoc,
      mem_callersOf_mergeAll hinner]

theorem same_of_mergeAll_repeated {m : CallersMap} (wellFormed : m.WellFormed)
    (h : ∀ m', m' ∈ maps ↔ m' = m) : Same (mergeAll maps) m := by
  have hmaps : ∀ m' ∈ maps, m'.WellFormed := fun m' hm' => (h m').1 hm' ▸ wellFormed
  constructor
  · intro k
    simp only [mem_keys_mergeAll, h, exists_eq_left]
  · intro k x
    simp only [mem_callersOf_mergeAll hmaps, h, exists_eq_left]

end

/-! ## Inverting as taking the converse -/

section

variable {m : CallersMap}

theorem WellFormed.mem_callersOf_invert (h : m.WellFormed) {k c : String} :
    c ∈ (CallersMap.invert m).callersOf k ↔ k ∈ m.callersOf c := by
  rw [CallersMap.mem_callersOf_invert, h.mem_callersOf_iff]

theorem WellFormed.mem_keys_invert (h : m.WellFormed) {k : String} :
    k ∈ (CallersMap.invert m).keys ↔ ∃ c, k ∈ m.callersOf c := by
  rw [CallersMap.mem_keys_invert]
  constructor
  · rintro ⟨entry, hentry, hk⟩
    exact ⟨entry.1, h.mem_callersOf_iff.2 ⟨entry, hentry, rfl, hk⟩⟩
  · rintro ⟨c, hk⟩
    obtain ⟨entry, hentry, -, hk⟩ := h.mem_callersOf_iff.1 hk
    exact ⟨entry, hentry, hk⟩

/-- A map without the keys that have no callers. -/
def dropEmpty (m : CallersMap) : CallersMap := m.filter fun entry => !entry.2.isEmpty

theorem mem_dropEmpty {entry : String × List String} :
    entry ∈ dropEmpty m ↔ entry ∈ m ∧ ∃ c, c ∈ entry.2 := by
  rw [dropEmpty, List.mem_filter, Bool.not_eq_true', List.isEmpty_eq_false_iff_exists_mem]

theorem WellFormed.dropEmpty (h : m.WellFormed) : (CallersMap.dropEmpty m).WellFormed where
  keys_nodup := h.keys_nodup.sublist (List.filter_sublist.map _)
  callers_nodup := fun entry hentry => h.callers_nodup entry (mem_dropEmpty.1 hentry).1

/-- Taking the converse twice loses nothing but keys without callers. -/
theorem WellFormed.invert_invert (h : m.WellFormed) :
    Same (CallersMap.invert (CallersMap.invert m)) (CallersMap.dropEmpty m) := by
  have hinverted : (CallersMap.invert m).WellFormed := .invert m
  constructor
  · intro k
    simp only [hinverted.mem_keys_invert, h.mem_callersOf_invert]
    constructor
    · rintro ⟨c, hcaller⟩
      obtain ⟨entry, hentry, rfl, hc⟩ := h.mem_callersOf_iff.1 hcaller
      exact List.mem_map_of_mem (mem_dropEmpty.2 ⟨hentry, c, hc⟩)
    · intro hk
      obtain ⟨entry, hentry, rfl⟩ := List.mem_map.1 hk
      obtain ⟨hentry, c, hc⟩ := mem_dropEmpty.1 hentry
      exact ⟨c, h.mem_callersOf_iff.2 ⟨entry, hentry, rfl, hc⟩⟩
  · intro k x
    rw [hinverted.mem_callersOf_invert, h.mem_callersOf_invert, h.mem_callersOf_iff,
      h.dropEmpty.mem_callersOf_iff]
    simp only [mem_dropEmpty]
    constructor
    · rintro ⟨entry, hentry, hk, hx⟩
      exact ⟨entry, ⟨hentry, x, hx⟩, hk, hx⟩
    · rintro ⟨entry, ⟨hentry, -⟩, hk, hx⟩
      exact ⟨entry, hentry, hk, hx⟩

def pairs (m : CallersMap) : List (String × String) :=
  m.flatMap fun entry => entry.2.map fun x => (entry.1, x)

theorem length_pairs (m : CallersMap) : m.pairs.length = m.count := by
  induction m with
  | nil => rfl
  | cons entry rest ih =>
      rw [pairs, List.flatMap_cons, List.length_append, List.length_map, ← pairs, ih, count]

theorem WellFormed.mem_pairs (h : m.WellFormed) {k x : String} :
    (k, x) ∈ m.pairs ↔ x ∈ m.callersOf k := by
  rw [h.mem_callersOf_iff, pairs, List.mem_flatMap]
  simp [eq_comm]

theorem WellFormed.pairs_nodup (h : m.WellFormed) : m.pairs.Nodup := by
  refine List.nodup_flatMap.2 ⟨?_, ?_⟩
  · intro entry hentry
    exact (h.callers_nodup entry hentry).map fun a b heq => (Prod.mk.inj heq).2
  · refine (List.pairwise_map.1 h.keys_nodup).imp ?_
    intro first second hne pair hmem hmem'
    obtain ⟨a, -, rfl⟩ := List.mem_map.1 hmem
    obtain ⟨b, -, heq⟩ := List.mem_map.1 hmem'
    exact hne (Prod.mk.inj heq).1.symm

/-- The converse of a relation has the same pairs the other way round, so it has as many. -/
theorem WellFormed.count_invert (h : m.WellFormed) : (CallersMap.invert m).count = m.count := by
  have hinverted : (CallersMap.invert m).WellFormed := .invert m
  have hswapped : (m.pairs.map Prod.swap).Nodup := h.pairs_nodup.map Prod.swap_injective
  have hperm : (CallersMap.invert m).pairs.Perm (m.pairs.map Prod.swap) := by
    refine (List.perm_ext_iff_of_nodup hinverted.pairs_nodup hswapped).2 fun ⟨k, x⟩ => ?_
    rw [hinverted.mem_pairs, h.mem_callersOf_invert, ← h.mem_pairs]
    simp
  rw [← length_pairs, hperm.length_eq, List.length_map, length_pairs]

end

/-- The converse of a union is the union of the converses. -/
theorem same_invert_mergeAll {maps : List CallersMap} (wellFormed : ∀ m ∈ maps, m.WellFormed) :
    Same (invert (mergeAll maps)) (mergeAll (maps.map invert)) := by
  have hmerged : (mergeAll maps).WellFormed := .mergeAll maps
  have hinverted : ∀ m ∈ maps.map invert, m.WellFormed := by
    intro m hm
    obtain ⟨m', -, rfl⟩ := List.mem_map.1 hm
    exact .invert m'
  have hmem : ∀ k x, x ∈ (invert (mergeAll maps)).callersOf k ↔
      ∃ m ∈ maps, x ∈ (invert m).callersOf k := by
    intro k x
    rw [hmerged.mem_callersOf_invert, mem_callersOf_mergeAll wellFormed]
    exact exists_congr fun m =>
      and_congr_right fun hm => (wellFormed m hm).mem_callersOf_invert.symm
  constructor
  · intro k
    rw [hmerged.mem_keys_invert, mem_keys_mergeAll]
    constructor
    · rintro ⟨c, hc⟩
      obtain ⟨m, hm, hk⟩ := (mem_callersOf_mergeAll wellFormed).1 hc
      exact ⟨invert m, List.mem_map_of_mem hm, (wellFormed m hm).mem_keys_invert.2 ⟨c, hk⟩⟩
    · rintro ⟨inverted, hmem, hk⟩
      obtain ⟨m, hm, rfl⟩ := List.mem_map.1 hmem
      obtain ⟨c, hc⟩ := (wellFormed m hm).mem_keys_invert.1 hk
      exact ⟨c, (mem_callersOf_mergeAll wellFormed).2 ⟨m, hm, hc⟩⟩
  · intro k x
    rw [hmem, mem_callersOf_mergeAll hinverted]
    simp only [List.mem_map, exists_exists_and_eq_and]

/-! ## Maps and sets as objects -/

theorem modify_length {α : Type} (before : List α) (a : α) (after : List α) (f : α → α) :
    (before ++ a :: after).modify before.length f = before ++ f a :: after := by
  induction before with
  | nil => rfl
  | cons b before ih =>
      rw [List.cons_append, List.length_cons, List.modify_succ_cons, ih, List.cons_append]

theorem add_of_notMem {m : CallersMap} {key : String} (h : key ∉ m.keys) (ids : List String) :
    add key ids m = m ++ [(key, union [] ids)] := by
  induction m with
  | nil => rfl
  | cons entry rest ih =>
      obtain ⟨k, cs⟩ := entry
      rw [keys, List.map_cons, List.mem_cons, not_or] at h
      rw [add, if_neg (Ne.symm h.1), ih h.2, List.cons_append]

theorem add_append_cons {before : CallersMap} {key : String} (h : key ∉ before.keys)
    (cs : List String) (after : CallersMap) (ids : List String) :
    add key ids (before ++ (key, cs) :: after) = before ++ (key, union cs ids) :: after := by
  induction before with
  | nil => rw [List.nil_append, add, if_pos rfl, List.nil_append]
  | cons entry before ih =>
      obtain ⟨k, ds⟩ := entry
      rw [keys, List.map_cons, List.mem_cons, not_or] at h
      rw [List.cons_append, add, if_neg (Ne.symm h.1), ih h.2, List.cons_append]

/-- A key is new to a map, or it stands somewhere for the first time. -/
theorem exists_entry_or_notMem (m : CallersMap) (key : String) :
    key ∉ m.keys ∨
      ∃ (before : CallersMap) (cs : List String) (after : CallersMap),
        m = before ++ (key, cs) :: after ∧ key ∉ before.keys := by
  induction m with
  | nil => exact .inl List.not_mem_nil
  | cons entry rest ih =>
      obtain ⟨k, ds⟩ := entry
      by_cases hk : key = k
      · subst hk
        exact .inr ⟨[], ds, rest, rfl, List.not_mem_nil⟩
      · rcases ih with hrest | ⟨before, cs, after, rfl, hbefore⟩
        · left
          simpa [keys, hk] using hrest
        · refine .inr ⟨(k, ds) :: before, cs, after, rfl, ?_⟩
          simpa [keys, hk] using hbefore

theorem lookup_zipIdx_of_notMem {names : List String} {key : String} (h : key ∉ names) (n : Nat) :
    (names.zipIdx n).lookup key = none := by
  rw [List.lookup_eq_none_iff]
  intro entry hentry
  refine bne_iff_ne.2 fun heq => h ?_
  rw [heq]
  exact List.fst_mem_of_mem_zipIdx hentry

theorem lookup_zipIdx_append {names : List String} {key : String} (h : key ∉ names)
    (rest : List String) (n : Nat) :
    ((names ++ key :: rest).zipIdx n).lookup key = some (n + names.length) := by
  rw [List.zipIdx_append, List.lookup_append, lookup_zipIdx_of_notMem h, List.zipIdx_cons]
  simp

namespace Store

variable {s : Store} {m : CallersMap} {key : String}

theorem entries_push (s : Store) (m : CallersMap) :
    (s.push m).entries s.maps.length = m.keys.zipIdx s.sets.length := by
  simp [entries, push]

theorem setAt_push_of_notMem (h : key ∉ m.keys) :
    (s.push m).setAt s.maps.length key =
      (s.sets.length + m.length, s.push (m ++ [(key, [])])) := by
  have hmaps : (s.push m).maps.modify s.maps.length (· ++ [(key, s.sets.length + m.length)]) =
      (s.push (m ++ [(key, [])])).maps := by
    rw [push, modify_length]
    simp [push, keys, List.zipIdx_append]
  rw [setAt, entries_push, lookup_zipIdx_of_notMem h]
  simp only [push, List.length_append, List.length_map] at hmaps ⊢
  rw [hmaps]
  simp

theorem setAt_push_of_mem {before after : CallersMap} {cs : List String} (h : key ∉ before.keys) :
    (s.push (before ++ (key, cs) :: after)).setAt s.maps.length key =
      (s.sets.length + before.length, s.push (before ++ (key, cs) :: after)) := by
  have hkeys : keys (before ++ (key, cs) :: after) = before.keys ++ key :: after.keys := by
    simp [keys]
  rw [setAt, entries_push, hkeys, lookup_zipIdx_append h]
  simp [keys]

theorem update_push (before after : CallersMap) (cs ids : List String) :
    (s.push (before ++ (key, cs) :: after)).update (s.sets.length + before.length) ids =
      s.push (before ++ (key, union cs ids) :: after) := by
  have hsets : ((s.sets ++ before.map (·.2)) ++ cs :: after.map (·.2)).modify
      (s.sets.length + before.length) (fun elements => union elements ids) =
        (s.sets ++ before.map (·.2)) ++ union cs ids :: after.map (·.2) := by
    have hlength : s.sets.length + before.length = (s.sets ++ before.map (·.2)).length := by simp
    rw [hlength, modify_length]
  simp only [List.append_assoc] at hsets
  simp [update, push, keys, hsets]

/-- Adding elements at a key of a map that has been pushed is adding them before it is pushed. -/
theorem addAt_push (s : Store) (m : CallersMap) (key : String) {ids : Store → List String}
    {values : List String} (hids : ∀ m, ids (s.push m) = values) :
    (s.push m).addAt s.maps.length key ids = s.push (add key values m) := by
  rcases exists_entry_or_notMem m key with hkey | ⟨before, cs, after, rfl, hbefore⟩
  · rw [addAt, setAt_push_of_notMem hkey, add_of_notMem hkey]
    dsimp only
    rw [hids, update_push]
  · rw [addAt, setAt_push_of_mem hbefore, add_append_cons hbefore]
    dsimp only
    rw [hids, update_push]

/-- No set has an element twice, no map has a key twice, and maps refer to sets that there are. -/
structure WellFormed (s : Store) : Prop where
  sets_nodup : ∀ set ∈ s.sets, set.Nodup
  keys_nodup : ∀ map ∈ s.maps, (map.map (·.1)).Nodup
  found : ∀ map ∈ s.maps, ∀ entry ∈ map, entry.2 < s.sets.length

theorem entries_of_lt {map : Address} (h : map < s.maps.length) : s.entries map ∈ s.maps := by
  rw [entries, List.getD_eq_getElem _ _ h]
  exact List.getElem_mem h

theorem WellFormed.read (h : s.WellFormed) {map : Address} (hmap : map < s.maps.length) :
    (s.read map).WellFormed := by
  have hentries := entries_of_lt hmap
  constructor
  · rw [keys, Store.read, List.map_map]
    exact h.keys_nodup _ hentries
  · intro entry hentry
    obtain ⟨⟨key, set⟩, hmem, rfl⟩ := List.mem_map.1 hentry
    have hset := h.found _ hentries _ hmem
    rw [elements, List.getD_eq_getElem _ _ hset]
    exact h.sets_nodup _ (List.getElem_mem hset)

theorem entries_push_of_lt {map : Address} (h : map < s.maps.length) :
    (s.push m).entries map = s.entries map := by
  simp [entries, push, List.getElem?_append_left h]

theorem elements_push_of_lt {set : Address} (h : set < s.sets.length) :
    (s.push m).elements set = s.elements set := by
  simp [elements, push, List.getElem?_append_left h]

/-- The entries of a map are added one after the other to the map that was pushed. -/
theorem foldl_addAt_entries {entries : List (String × Address)}
    (h : ∀ entry ∈ entries, entry.2 < s.sets.length) (m : CallersMap) :
    entries.foldl (fun t entry => t.addAt s.maps.length entry.1 (elements · entry.2)) (s.push m) =
      s.push (merge m (entries.map fun entry => (entry.1, s.elements entry.2))) := by
  induction entries generalizing m with
  | nil => rfl
  | cons entry entries ih =>
      obtain ⟨hentry, hentries⟩ := List.forall_mem_cons.1 h
      rw [List.foldl_cons, addAt_push s m entry.1 fun _ => elements_push_of_lt hentry,
        ih hentries, List.map_cons, merge_cons]

/-- Merging maps in place is pushing the map that they are merged to. -/
theorem mergeAll_eq (h : s.WellFormed) {maps : List Address}
    (hmaps : ∀ map ∈ maps, map < s.maps.length) :
    s.mergeAll maps = (s.maps.length, s.push (CallersMap.mergeAll (maps.map s.read))) := by
  suffices hfold : ∀ m, maps.foldl (fun t map => (t.entries map).foldl
      (fun t entry => t.addAt s.maps.length entry.1 (elements · entry.2)) t) (s.push m) =
        s.push ((maps.map s.read).foldl merge m) by
    exact congrArg (Prod.mk _) (hfold [])
  induction maps with
  | nil => exact fun m => rfl
  | cons map maps ih =>
      intro m
      obtain ⟨hmap, hmaps⟩ := List.forall_mem_cons.1 hmaps
      rw [List.foldl_cons, entries_push_of_lt hmap,
        foldl_addAt_entries (h.found _ (entries_of_lt hmap)), ih hmaps]
      rfl

theorem foldl_addAt_caller (caller : String) (ids : List String) (m : CallersMap) :
    ids.foldl (fun t id => t.addAt s.maps.length id fun _ => [caller]) (s.push m) =
      s.push (addCaller caller ids m) := by
  induction ids generalizing m with
  | nil => rfl
  | cons id ids ih =>
      rw [List.foldl_cons, addAt_push s m id fun _ => rfl, ih]
      rfl

/-- Inverting a map in place is pushing the map that it is inverted to. -/
theorem invert_eq (h : s.WellFormed) {map : Address} (hmap : map < s.maps.length) :
    s.invert map = (s.maps.length, s.push (CallersMap.invert (s.read map))) := by
  have hfold : ∀ (entries : List (String × Address)) (m : CallersMap),
      (∀ entry ∈ entries, entry.2 < s.sets.length) →
      entries.foldl (fun t entry => (t.elements entry.2).foldl
        (fun t id => t.addAt s.maps.length id fun _ => [entry.1]) t) (s.push m) =
      s.push ((entries.map fun entry => (entry.1, s.elements entry.2)).foldl
        (fun inverted entry => addCaller entry.1 entry.2 inverted) m) := by
    intro entries
    induction entries with
    | nil => exact fun m _ => rfl
    | cons entry entries ih =>
        intro m hentries
        obtain ⟨hentry, hentries⟩ := List.forall_mem_cons.1 hentries
        rw [List.foldl_cons, elements_push_of_lt hentry, foldl_addAt_caller, ih _ hentries]
        rfl
  rw [invert, newMap]
  dsimp only
  rw [entries_push_of_lt hmap, hfold _ _ (h.found _ (entries_of_lt hmap))]
  rfl

/-- A map has been made that is the given one.  All maps and sets that there were are as they were,
and neither the map nor any of its sets is one of them. -/
structure Makes (s : Store) (made : Address × Store) (m : CallersMap) : Prop where
  maps_kept : s.maps <+: made.2.maps
  sets_kept : s.sets <+: made.2.sets
  new_map : s.maps.length ≤ made.1
  new_sets : ∀ entry ∈ made.2.entries made.1, s.sets.length ≤ entry.2
  reads : made.2.read made.1 = m

theorem read_push (s : Store) (m : CallersMap) : (s.push m).read s.maps.length = m := by
  rw [read, entries_push]
  refine List.ext_getElem (by simp [keys]) fun i hi hi' => ?_
  simp [keys, elements, push, hi']

theorem makes_push (s : Store) (m : CallersMap) : Makes s (s.maps.length, s.push m) m where
  maps_kept := List.prefix_append _ _
  sets_kept := List.prefix_append _ _
  new_map := le_rfl
  new_sets := by
    intro entry hentry
    rw [entries_push] at hentry
    exact List.le_snd_of_mem_zipIdx hentry
  reads := read_push s m

end Store

/-- Maps are merged to the union of their relations: the order of the maps, groups of them that are
merged before, and repetitions make no difference. -/
structure MergesToUnion (maps : List CallersMap) : Prop where
  mem_keys : ∀ k, k ∈ (mergeAll maps).keys ↔ ∃ m ∈ maps, k ∈ m.keys
  mem_callersOf : ∀ k x, x ∈ (mergeAll maps).callersOf k ↔ ∃ m ∈ maps, x ∈ m.callersOf k
  reordered : ∀ maps', maps'.Perm maps → Same (mergeAll maps') (mergeAll maps)
  grouped : ∀ before inner after, maps = before ++ inner ++ after →
    Same (mergeAll (before ++ mergeAll inner :: after)) (mergeAll maps)
  repeated : ∀ m ∈ maps, Same (mergeAll (m :: maps)) (mergeAll maps)
  idempotent : ∀ m ∈ maps, Same (mergeAll [m, m]) m

/-- A map is inverted to the converse of its relation, which has as many pairs; inverted once more,
it is the map without the keys that have no callers. -/
structure InvertsToConverse (m : CallersMap) : Prop where
  mem_keys : ∀ k, k ∈ (invert m).keys ↔ ∃ c, k ∈ m.callersOf c
  mem_callersOf : ∀ k c, c ∈ (invert m).callersOf k ↔ k ∈ m.callersOf c
  twice : Same (invert (invert m)) (dropEmpty m)
  count : (invert m).count = m.count

theorem mergesToUnion {maps : List CallersMap} (wellFormed : ∀ m ∈ maps, m.WellFormed) :
    MergesToUnion maps where
  mem_keys := fun _ => mem_keys_mergeAll
  mem_callersOf := fun _ _ => mem_callersOf_mergeAll wellFormed
  reordered := fun _ hperm => same_mergeAll wellFormed fun _ => hperm.mem_iff
  grouped := by
    rintro before inner after rfl
    exact same_mergeAll_group wellFormed
  repeated := fun m hm => same_mergeAll wellFormed fun m' => by
    rw [List.mem_cons, or_iff_right_iff_imp]
    rintro rfl
    exact hm
  idempotent := fun m hm => same_of_mergeAll_repeated (wellFormed m hm) fun m' => by simp

theorem WellFormed.invertsToConverse {m : CallersMap} (h : m.WellFormed) : InvertsToConverse m where
  mem_keys := fun _ => h.mem_keys_invert
  mem_callersOf := fun _ _ => h.mem_callersOf_invert
  twice := h.invert_invert
  count := h.count_invert

/-- Maps are merged and inverted as relations, and nothing that there was is changed, even if the
maps share their sets. -/
theorem maps_form_relation_algebra {s : Store} (wellFormed : s.WellFormed) {maps : List Address}
    (found : ∀ map ∈ maps, map < s.maps.length) :
    s.Makes (s.mergeAll maps) (mergeAll (maps.map s.read)) ∧
    (∀ map ∈ maps, s.Makes (s.invert map) (invert (s.read map))) ∧
    MergesToUnion (maps.map s.read) ∧
    (∀ map ∈ maps, InvertsToConverse (s.read map)) ∧
    Same (invert (mergeAll (maps.map s.read))) (mergeAll ((maps.map s.read).map invert)) := by
  have hread : ∀ m ∈ maps.map s.read, m.WellFormed := by
    intro m hm
    obtain ⟨map, hmap, rfl⟩ := List.mem_map.1 hm
    exact wellFormed.read (found map hmap)
  refine ⟨?_, fun map hmap => ?_, mergesToUnion hread, fun map hmap => ?_,
    same_invert_mergeAll hread⟩
  · rw [Store.mergeAll_eq wellFormed found]
    exact Store.makes_push s _
  · rw [Store.invert_eq wellFormed (found map hmap)]
    exact Store.makes_push s _
  · exact (wellFormed.read (found map hmap)).invertsToConverse

def sharingStore : Store := ⟨[[("a", 0), ("b", 1)], [("a", 0), ("c", 0)]], [["b", "a"], []]⟩

/-- The shared set stands at three keys and is added to itself, and yet it stays as it is. -/
theorem maps_form_relation_algebra_sharing :
    sharingStore.WellFormed ∧
    sharingStore.Makes (sharingStore.mergeAll [0, 1, 0])
      [("a", ["b", "a"]), ("b", []), ("c", ["b", "a"])] ∧
    sharingStore.Makes (sharingStore.invert 1) [("b", ["a", "c"]), ("a", ["a", "c"])] ∧
    MergesToUnion ([0, 1, 0].map sharingStore.read) ∧
    (invert (sharingStore.read 1)).count = (sharingStore.read 1).count := by
  have wellFormed : sharingStore.WellFormed := ⟨by decide, by decide, by decide⟩
  obtain ⟨hmerged, hinverted, hunion, hconverse, -⟩ :=
    maps_form_relation_algebra wellFormed
      (by decide : ∀ map ∈ [0, 1, 0], map < sharingStore.maps.length)
  exact ⟨wellFormed, hmerged, hinverted 1 (by decide), hunion, (hconverse 1 (by decide)).count⟩

end CallAtlas.CallersMap
