import CallAtlas.CallersMap
import CallAtlas.Text.Sorted
import Mathlib.Data.List.Nodup
import Mathlib.Data.String.Basic

/-!
# The relation of a callers map

A callers map stands for a set of keys and a relation between keys and callers.  Every operation on
maps is described by what it does to these two, and it keeps a map free of repetitions.
-/

namespace CallAtlas

theorem Text.textLE_trans (a b c : String) (hab : textLE a b = true) (hbc : textLE b c = true) :
    textLE a c = true := by
  simp only [textLE, decide_eq_true_eq] at *
  exact le_trans hab hbc

theorem Text.textLE_total (a b : String) : (textLE a b || textLE b a) = true := by
  simp only [textLE, Bool.or_eq_true, decide_eq_true_eq]
  exact le_total a b

theorem nodup_eraseDups (ids : List String) : ids.eraseDups.Nodup := by
  induction hn : ids.length using Nat.strongRecOn generalizing ids with
  | ind n ih =>
      cases ids with
      | nil => exact List.nodup_nil
      | cons id ids =>
          rw [List.eraseDups_cons, List.nodup_cons]
          constructor
          · simp [List.mem_eraseDups]
          · have hle := List.length_filter_le (fun b => !b == id) ids
            refine ih _ ?_ _ rfl
            simp only [List.length_cons] at hn
            omega

theorem Text.sortedTexts_pairwise (ids : List String) : (sortedTexts ids).Pairwise (· < ·) := by
  have hsorted : (sortedTexts ids).Pairwise (fun a b => textLE a b = true) :=
    List.pairwise_mergeSort textLE_trans textLE_total ids.eraseDups
  have hnodup : (sortedTexts ids).Nodup :=
    (List.mergeSort_perm ids.eraseDups textLE).nodup_iff.2 (nodup_eraseDups ids)
  refine (hsorted.and hnodup).imp ?_
  rintro a b ⟨hle, hne⟩
  exact lt_of_le_of_ne (of_decide_eq_true hle) hne

theorem Text.sortedTexts_nodup (ids : List String) : (sortedTexts ids).Nodup :=
  (sortedTexts_pairwise ids).imp ne_of_lt

namespace CallersMap

/-- No key and no caller of a key is repeated. -/
structure WellFormed (m : CallersMap) : Prop where
  keys_nodup : m.keys.Nodup
  callers_nodup : ∀ entry ∈ m, entry.2.Nodup

def Closed (m : CallersMap) : Prop := ∀ k x, x ∈ m.callersOf k → x ∈ m.keys

def Mentions (m : CallersMap) (id : String) : Prop := ∃ entry ∈ m, id = entry.1 ∨ id ∈ entry.2

theorem WellFormed.of_cons {entry : String × List String} {rest : CallersMap}
    (h : WellFormed (entry :: rest)) :
    entry.1 ∉ keys rest ∧ entry.2.Nodup ∧ WellFormed rest := by
  obtain ⟨hkey, hkeys⟩ := List.nodup_cons.1 h.keys_nodup
  refine ⟨hkey, h.callers_nodup entry List.mem_cons_self, hkeys, ?_⟩
  intro other hother
  exact h.callers_nodup other (List.mem_cons_of_mem _ hother)

theorem insertNew_nodup {set : List String} (id : String) (h : set.Nodup) :
    (insertNew set id).Nodup := by
  unfold insertNew
  split
  · exact h
  · rename_i hid
    rw [List.contains_iff_mem] at hid
    exact h.append (List.nodup_singleton id) (by simpa using hid)

theorem union_nodup {set : List String} (ids : List String) (h : set.Nodup) :
    (union set ids).Nodup := by
  induction ids generalizing set with
  | nil => exact h
  | cons id ids ih => exact ih (insertNew_nodup id h)

@[simp]
theorem mem_keys_add {key x : String} {callers : List String} {m : CallersMap} :
    x ∈ (add key callers m).keys ↔ x ∈ m.keys ∨ x = key := by
  induction m with
  | nil => simp [add, keys]
  | cons entry rest ih =>
      obtain ⟨k, cs⟩ := entry
      rw [add]
      split
      · rename_i hk
        subst hk
        simp only [keys, List.map_cons, List.mem_cons]
        tauto
      · simp only [keys, List.map_cons, List.mem_cons] at ih ⊢
        rw [ih, or_assoc]

theorem callersOf_cons (entry : String × List String) (rest : CallersMap) (k : String) :
    callersOf (entry :: rest) k = if k = entry.1 then entry.2 else callersOf rest k := by
  obtain ⟨first, cs⟩ := entry
  by_cases hk : k = first
  · simp [callersOf, hk]
  · have hne : (k == first) = false := by simpa using hk
    simp [callersOf, List.lookup_cons, hne, hk]

@[simp]
theorem mem_callersOf_add {key k x : String} {callers : List String} {m : CallersMap} :
    x ∈ (add key callers m).callersOf k ↔ x ∈ m.callersOf k ∨ k = key ∧ x ∈ callers := by
  induction m with
  | nil =>
      rw [add, callersOf_cons]
      by_cases hk : k = key <;> simp [callersOf, hk]
  | cons entry rest ih =>
      obtain ⟨first, cs⟩ := entry
      rw [add, callersOf_cons]
      by_cases hfirst : first = key
      · subst hfirst
        rw [if_pos rfl, callersOf_cons]
        by_cases hk : k = first <;> simp [hk]
      · rw [if_neg hfirst, callersOf_cons]
        by_cases hk : k = first
        · simp [hk, hfirst]
        · simp [hk, ih]

theorem WellFormed.add {m : CallersMap} (h : m.WellFormed) (key : String)
    (callers : List String) : (CallersMap.add key callers m).WellFormed := by
  induction m with
  | nil =>
      refine ⟨by simp [CallersMap.add, keys], ?_⟩
      intro entry hentry
      obtain rfl := List.mem_singleton.1 hentry
      exact union_nodup callers List.nodup_nil
  | cons entry rest ih =>
      obtain ⟨k, cs⟩ := entry
      obtain ⟨hkey, hcs, hrest⟩ := h.of_cons
      rw [CallersMap.add]
      split
      · refine ⟨h.keys_nodup, ?_⟩
        intro entry hentry
        rcases List.mem_cons.1 hentry with rfl | hentry
        · exact union_nodup callers hcs
        · exact hrest.callers_nodup entry hentry
      · rename_i hne
        refine ⟨List.nodup_cons.2 ⟨?_, (ih hrest).keys_nodup⟩, ?_⟩
        · intro hmem
          rcases mem_keys_add.1 hmem with hmem | hmem
          · exact hkey hmem
          · exact hne hmem
        · intro entry hentry
          rcases List.mem_cons.1 hentry with rfl | hentry
          · exact hcs
          · exact (ih hrest).callers_nodup entry hentry

theorem WellFormed.nil : WellFormed [] := ⟨List.nodup_nil, by simp⟩

theorem callersOf_eq_nil {m : CallersMap} {k : String} (h : k ∉ m.keys) : m.callersOf k = [] := by
  induction m with
  | nil => rfl
  | cons entry rest ih =>
      simp only [keys, List.map_cons, List.mem_cons, not_or] at h
      rw [callersOf_cons, if_neg h.1, ih h.2]

theorem mem_keys_of_mem_callersOf {m : CallersMap} {k x : String} (h : x ∈ m.callersOf k) :
    k ∈ m.keys := by
  by_contra hk
  rw [callersOf_eq_nil hk] at h
  exact List.not_mem_nil h

/-- Without repeated keys, the callers of a key are those in its entry. -/
theorem WellFormed.mem_callersOf_iff {m : CallersMap} (h : m.WellFormed) {k x : String} :
    x ∈ m.callersOf k ↔ ∃ entry ∈ m, k = entry.1 ∧ x ∈ entry.2 := by
  induction m with
  | nil => simp [callersOf]
  | cons entry rest ih =>
      obtain ⟨hkey, -, hrest⟩ := h.of_cons
      rw [callersOf_cons]
      split
      · rename_i hk
        subst hk
        constructor
        · intro hx
          exact ⟨entry, List.mem_cons_self, rfl, hx⟩
        · rintro ⟨other, hother, heq, hx⟩
          rcases List.mem_cons.1 hother with rfl | hother
          · exact hx
          · rw [heq] at hkey
            exact absurd (List.mem_map_of_mem hother) hkey
      · rename_i hk
        rw [ih hrest]
        simp [hk]

theorem WellFormed.callersOf_eq {m : CallersMap} (h : m.WellFormed) {entry : String × List String}
    (hentry : entry ∈ m) : m.callersOf entry.1 = entry.2 := by
  induction m with
  | nil => cases hentry
  | cons first rest ih =>
      obtain ⟨hkey, -, hrest⟩ := h.of_cons
      rw [callersOf_cons]
      rcases List.mem_cons.1 hentry with rfl | hentry
      · exact if_pos rfl
      · have hne : entry.1 ≠ first.1 := by
          intro heq
          exact hkey (heq ▸ List.mem_map_of_mem hentry)
        rw [if_neg hne, ih hrest hentry]

theorem mentions_iff_mem_keys {m : CallersMap} (wellFormed : m.WellFormed) (closed : m.Closed)
    {id : String} : m.Mentions id ↔ id ∈ m.keys := by
  constructor
  · rintro ⟨entry, hentry, rfl | hid⟩
    · exact List.mem_map_of_mem hentry
    · exact closed entry.1 id (wellFormed.mem_callersOf_iff.2 ⟨entry, hentry, rfl, hid⟩)
  · intro hid
    obtain ⟨entry, hentry, rfl⟩ := List.mem_map.1 hid
    exact ⟨entry, hentry, .inl rfl⟩

theorem merge_cons (m : CallersMap) (entry : String × List String) (rest : CallersMap) :
    merge m (entry :: rest) = merge (add entry.1 entry.2 m) rest := rfl

@[simp]
theorem mem_keys_merge {m other : CallersMap} {x : String} :
    x ∈ (merge m other).keys ↔ x ∈ m.keys ∨ x ∈ other.keys := by
  induction other generalizing m with
  | nil => simp [merge, keys]
  | cons entry rest ih =>
      rw [merge_cons, ih, mem_keys_add, or_assoc]
      simp [keys]

theorem mem_callersOf_merge {m other : CallersMap} {k x : String} :
    x ∈ (merge m other).callersOf k ↔
      x ∈ m.callersOf k ∨ ∃ entry ∈ other, k = entry.1 ∧ x ∈ entry.2 := by
  induction other generalizing m with
  | nil => simp [merge]
  | cons entry rest ih =>
      rw [merge_cons, ih, mem_callersOf_add, or_assoc]
      simp

theorem WellFormed.merge {m : CallersMap} (h : m.WellFormed) (other : CallersMap) :
    (CallersMap.merge m other).WellFormed := by
  induction other generalizing m with
  | nil => exact h
  | cons entry rest ih => exact ih (h.add entry.1 entry.2)

theorem WellFormed.mergeAll (maps : List CallersMap) : (CallersMap.mergeAll maps).WellFormed := by
  suffices h : ∀ into : CallersMap, into.WellFormed → (maps.foldl CallersMap.merge into).WellFormed by
    exact h [] .nil
  induction maps with
  | nil =>
      intro into h
      exact h
  | cons m maps ih =>
      intro into h
      exact ih _ (h.merge m)

/-- Adding one caller to several methods. -/
def addCaller (caller : String) (ids : List String) (m : CallersMap) : CallersMap :=
  ids.foldl (fun m id => add id [caller] m) m

theorem invert_eq (m : CallersMap) :
    invert m = m.foldl (fun inverted entry => addCaller entry.1 entry.2 inverted) [] := rfl

theorem mem_keys_addCaller {caller x : String} {ids : List String} {m : CallersMap} :
    x ∈ (addCaller caller ids m).keys ↔ x ∈ m.keys ∨ x ∈ ids := by
  induction ids generalizing m with
  | nil => simp [addCaller]
  | cons id ids ih =>
      rw [addCaller, List.foldl_cons, ← addCaller, ih, mem_keys_add, List.mem_cons, or_assoc]

theorem mem_callersOf_addCaller {caller k x : String} {ids : List String} {m : CallersMap} :
    x ∈ (addCaller caller ids m).callersOf k ↔ x ∈ m.callersOf k ∨ x = caller ∧ k ∈ ids := by
  induction ids generalizing m with
  | nil => simp [addCaller]
  | cons id ids ih =>
      rw [addCaller, List.foldl_cons, ← addCaller, ih, mem_callersOf_add, List.mem_singleton,
        List.mem_cons, or_assoc]
      tauto

theorem WellFormed.addCaller {m : CallersMap} (h : m.WellFormed) (caller : String)
    (ids : List String) : (CallersMap.addCaller caller ids m).WellFormed := by
  induction ids generalizing m with
  | nil => exact h
  | cons id ids ih => exact ih (h.add id [caller])

theorem mem_keys_invert {m : CallersMap} {k : String} :
    k ∈ (invert m).keys ↔ ∃ entry ∈ m, k ∈ entry.2 := by
  suffices h : ∀ into : CallersMap,
      k ∈ (m.foldl (fun inverted entry => addCaller entry.1 entry.2 inverted) into).keys ↔
        k ∈ into.keys ∨ ∃ entry ∈ m, k ∈ entry.2 by
    rw [invert_eq, h []]
    simp [keys]
  induction m with
  | nil => simp
  | cons entry rest ih =>
      intro into
      rw [List.foldl_cons, ih, mem_keys_addCaller, or_assoc]
      simp

theorem mem_callersOf_invert {m : CallersMap} {k x : String} :
    x ∈ (invert m).callersOf k ↔ ∃ entry ∈ m, x = entry.1 ∧ k ∈ entry.2 := by
  suffices h : ∀ into : CallersMap,
      x ∈ (m.foldl (fun inverted entry => addCaller entry.1 entry.2 inverted) into).callersOf k ↔
        x ∈ into.callersOf k ∨ ∃ entry ∈ m, x = entry.1 ∧ k ∈ entry.2 by
    rw [invert_eq, h []]
    simp [callersOf]
  induction m with
  | nil => simp
  | cons entry rest ih =>
      intro into
      rw [List.foldl_cons, ih, mem_callersOf_addCaller, or_assoc]
      simp

theorem WellFormed.invert (m : CallersMap) : (CallersMap.invert m).WellFormed := by
  suffices h : ∀ into : CallersMap, into.WellFormed → WellFormed
      (m.foldl (fun inverted entry => CallersMap.addCaller entry.1 entry.2 inverted) into) by
    exact h [] .nil
  induction m with
  | nil =>
      intro into h
      exact h
  | cons entry rest ih =>
      intro into h
      exact ih _ (h.addCaller entry.1 entry.2)

end CallersMap

end CallAtlas
