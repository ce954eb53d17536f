import CallAtlas.Proofs.Computation
import CallAtlas.Source.Signature
import Mathlib.Data.List.Lemmas

/-!
# Parameter lists

The list of parameters in a signature shows every parameter once, in the order of declaration, and
each default at its own parameter.  A slash stands behind the positional-only parameters and a star
before the keyword-only ones, so that whoever splits the list at these markers gets the groups of
parameters back.
-/

namespace CallAtlas.Source

/-- What an element of a parameter list stands for. -/
inductive Mark where
  | plain
  | slash
  | star
  | variadic
  | keywordVariadic
deriving DecidableEq

/-- What a text in a parameter list stands for, as far as its first characters tell. -/
def Mark.ofText (text : String) : Mark :=
  match text.toList with
  | ['/'] => .slash
  | ['*'] => .star
  | '*' :: '*' :: _ => .keywordVariadic
  | '*' :: _ => .variadic
  | _ => .plain

/-- Whether keyword-only parameters may follow. -/
def Mark.isStarred : Mark → Bool
  | .plain => false
  | .slash => false
  | .star => true
  | .variadic => true
  | .keywordVariadic => true

/-- The five groups of a parameter list. -/
structure Groups (α : Type) where
  positionalOnly : List α
  ordinary : List α
  variadic : Option α
  keywordOnly : List α
  keywordVariadic : Option α

namespace Groups

section

variable {α β : Type}

def empty : Groups α := ⟨[], [], none, [], none⟩

def map (f : α → β) (g : Groups α) : Groups β where
  positionalOnly := g.positionalOnly.map f
  ordinary := g.ordinary.map f
  variadic := g.variadic.map f
  keywordOnly := g.keywordOnly.map f
  keywordVariadic := g.keywordVariadic.map f

/-- Adds parameters.  Behind a star they are keyword-only. -/
def addPlain (g : Groups α) (starred : Bool) (xs : List α) : Groups α :=
  if starred then { g with keywordOnly := g.keywordOnly ++ xs }
  else { g with ordinary := g.ordinary ++ xs }

/-- Adds an element.  At a slash all parameters so far turn out to be positional-only. -/
def add (g : Groups α) (starred : Bool) (x : α) : Mark → Groups α
  | .plain => g.addPlain starred [x]
  | .slash => { g with positionalOnly := g.ordinary, ordinary := [] }
  | .star => g
  | .variadic => { g with variadic := some x }
  | .keywordVariadic => { g with keywordVariadic := some x }

/-- Reads a parameter list, of which a star may have been read already. -/
def read (mark : α → Mark) (starred : Bool) (g : Groups α) : List α → Groups α
  | [] => g
  | x :: xs => read mark (starred || (mark x).isStarred) (g.add starred x (mark x)) xs

/-- Splits a parameter list at its markers. -/
def ofList (mark : α → Mark) (xs : List α) : Groups α := read mark false empty xs

variable {mark : α → Mark} {xs : List α}

theorem addPlain_append (g : Groups α) (starred : Bool) (xs ys : List α) :
    (g.addPlain starred xs).addPlain starred ys = g.addPlain starred (xs ++ ys) := by
  cases starred <;> simp [addPlain]

theorem read_plain (plain : ∀ x ∈ xs, mark x = .plain) (starred : Bool) (g : Groups α)
    (rest : List α) :
    read mark starred g (xs ++ rest) = read mark starred (g.addPlain starred xs) rest := by
  induction xs generalizing g with
  | nil => cases starred <;> simp [addPlain]
  | cons x xs ih =>
      obtain ⟨hx, hxs⟩ := List.forall_mem_cons.1 plain
      rw [List.cons_append, read, hx, Mark.isStarred, Bool.or_false, ih hxs, add, addPlain_append,
        List.singleton_append]

theorem map_add (f : α → β) (g : Groups α) (starred : Bool) (x : α) (m : Mark) :
    (g.add starred x m).map f = (g.map f).add starred (f x) m := by
  cases m with
  | plain => cases starred <;> simp [add, addPlain, map]
  | slash => rfl
  | star => rfl
  | variadic => rfl
  | keywordVariadic => rfl

theorem read_map {f : α → β} {mark' : β → Mark} (same : ∀ x ∈ xs, mark' (f x) = mark x)
    (starred : Bool) (g : Groups α) :
    read mark' starred (g.map f) (xs.map f) = (read mark starred g xs).map f := by
  induction xs generalizing starred g with
  | nil => rfl
  | cons x xs ih =>
      obtain ⟨hx, hxs⟩ := List.forall_mem_cons.1 same
      rw [List.map_cons, read, read, hx, ← map_add, ih hxs]

/-- Splitting a list depends on its marks only. -/
theorem ofList_map {f : α → β} {mark' : β → Mark} (same : ∀ x ∈ xs, mark' (f x) = mark x) :
    ofList mark' (xs.map f) = (ofList mark xs).map f :=
  read_map same false empty

end

end Groups

namespace ParamItem

section

variable {α : Type}

def mark : ParamItem α → Mark
  | .plain _ _ => .plain
  | .slash => .slash
  | .star => .star
  | .variadic _ => .variadic
  | .keywordVariadic _ => .keywordVariadic

def param? : ParamItem α → Option (Param α)
  | .plain q _ => some q
  | .slash => none
  | .star => none
  | .variadic q => some q
  | .keywordVariadic q => some q

def default? : ParamItem α → Option α
  | .plain _ d => d
  | _ => none

/-- A parameter that may carry a default, with the default that it carries. -/
def carrier? : ParamItem α → Option (Param α × Option α)
  | .plain q d => some (q, d)
  | _ => none

/-- The item for a parameter and the default that it carries. -/
def ofPair (x : Param α × Option α) : ParamItem α := .plain x.1 x.2

end

end ParamItem

/-- The parameters that the groups of a parameter list show, with their defaults. -/
def Groups.params {α : Type} (g : Groups (ParamItem α)) : Params α where
  positionalOnly := g.positionalOnly.filterMap ParamItem.param?
  ordinary := g.ordinary.filterMap ParamItem.param?
  variadic := g.variadic.bind ParamItem.param?
  keywordOnly := g.keywordOnly.filterMap ParamItem.param?
  keywordDefaults := g.keywordOnly.map ParamItem.default?
  keywordVariadic := g.keywordVariadic.bind ParamItem.param?
  defaults := (g.positionalOnly ++ g.ordinary).filterMap ParamItem.default?

/-! ## Alignment of defaults -/

section

variable {α β : Type}

theorem filterMap_of_map {f : α → Option β} {xs : List α} {ys : List (Option β)}
    (h : xs.map f = ys) : xs.filterMap f = ys.filterMap id := by
  rw [← h, List.filterMap_map]
  rfl

theorem length_alignRight {xs : List α} {ys : List β} (h : ys.length ≤ xs.length) :
    (alignRight xs ys).length = xs.length := by
  rw [alignRight, List.length_zip, List.length_append, List.length_replicate, List.length_map]
  omega

/-- An element is aligned with the one that stands as far behind the start of the second list as the
element itself stands behind the place where that list starts. -/
theorem getElem?_alignRight {xs : List α} {ys : List β} (h : ys.length ≤ xs.length) (i : Nat) :
    (alignRight xs ys)[i]? = xs[i]?.map fun x =>
      (x, if xs.length - ys.length ≤ i then ys[i - (xs.length - ys.length)]? else none) := by
  rw [alignRight, List.zip, List.getElem?_zipWith, List.getElem?_append, List.length_replicate]
  by_cases hi : i < xs.length
  · rw [List.getElem?_eq_getElem hi]
    by_cases hlate : xs.length - ys.length ≤ i
    · have hy : i - (xs.length - ys.length) < ys.length := by omega
      rw [if_neg (Nat.not_lt.2 hlate)]
      simp [hlate, hy]
    · have hearly : i < xs.length - ys.length := Nat.lt_of_not_le hlate
      simp [hlate, hearly]
  · rw [List.getElem?_eq_none (Nat.le_of_not_lt hi)]
    rfl

/-- Counted from the end, elements with the same number are aligned. -/
theorem getElem?_reverse_alignRight {xs : List α} {ys : List β} (h : ys.length ≤ xs.length)
    (j : Nat) :
    (alignRight xs ys).reverse[j]? = xs.reverse[j]?.map fun x => (x, ys.reverse[j]?) := by
  have hlength := length_alignRight h
  by_cases hj : j < xs.length
  · rw [List.getElem?_reverse (hlength.symm ▸ hj), List.getElem?_reverse hj, hlength,
      getElem?_alignRight h]
    congr 1
    funext x
    by_cases hy : j < ys.length
    · have hplace : xs.length - 1 - j - (xs.length - ys.length) = ys.length - 1 - j := by omega
      rw [List.getElem?_reverse hy, if_pos (by omega), hplace]
    · rw [if_neg (by omega), List.getElem?_eq_none (by simpa using hy)]
  · have hlate : xs.length ≤ j := Nat.le_of_not_lt hj
    have hnone : (alignRight xs ys).reverse[j]? = none :=
      List.getElem?_eq_none (by rwa [List.length_reverse, hlength])
    have hnone' : xs.reverse[j]? = none := List.getElem?_eq_none (by rwa [List.length_reverse])
    rw [hnone, hnone']
    rfl

theorem map_fst_alignRight {xs : List α} {ys : List β} (h : ys.length ≤ xs.length) :
    (alignRight xs ys).map (·.1) = xs := by
  refine List.map_fst_zip ?_
  rw [List.length_append, List.length_replicate, List.length_map]
  omega

theorem filterMap_snd_alignRight {xs : List α} {ys : List β} (h : ys.length ≤ xs.length) :
    (alignRight xs ys).filterMap (·.2) = ys := by
  have hsnd : (alignRight xs ys).map (·.2) =
      List.replicate (xs.length - ys.length) none ++ ys.map some := by
    refine List.map_snd_zip ?_
    rw [List.length_append, List.length_replicate, List.length_map]
    omega
  exact (filterMap_of_map hsnd).trans (by simp)

end

namespace Params

section

variable {α : Type} (p : Params α)

/-- The shape of the parameters of a definition: no more defaults than positional parameters, and
for each keyword-only parameter a default or none. -/
structure IsShaped : Prop where
  defaults : p.defaults.length ≤ p.positionalOnly.length + p.ordinary.length
  keywordDefaults : p.keywordDefaults.length = p.keywordOnly.length

theorem IsShaped.defaults_le {p : Params α} (shaped : p.IsShaped) :
    p.defaults.length ≤ (p.positionalOnly ++ p.ordinary).length := by
  rw [List.length_append]
  exact shaped.defaults

/-- The parameters in the order of their declaration. -/
def declared : List (Param α) :=
  p.positionalOnly ++ p.ordinary ++ p.variadic.toList ++ p.keywordOnly ++ p.keywordVariadic.toList

def slashItems : List (ParamItem α) := if p.positionalOnly.isEmpty then [] else [.slash]

/-- The parameter for further positional arguments or the star in its place. -/
def starItems : List (ParamItem α) :=
  match p.variadic with
  | some v => [.variadic v]
  | none => if p.keywordOnly.isEmpty then [] else [.star]

def lastItems : List (ParamItem α) :=
  match p.keywordVariadic with
  | some v => [.keywordVariadic v]
  | none => []

def onlyItems : List (ParamItem α) :=
  (p.positional.take p.positionalOnly.length).map ParamItem.ofPair

def ordinaryItems : List (ParamItem α) :=
  (p.positional.drop p.positionalOnly.length).map ParamItem.ofPair

def keywordItems : List (ParamItem α) :=
  (p.keywordOnly.zip p.keywordDefaults).map ParamItem.ofPair

theorem items_eq : p.items =
    p.onlyItems ++ (p.slashItems ++ (p.ordinaryItems ++ (p.starItems ++ (p.keywordItems ++
      p.lastItems)))) := by
  unfold onlyItems ordinaryItems
  rw [List.map_take, List.map_drop, ← List.append_assoc, ← List.append_assoc, ← List.append_assoc,
    ← List.append_assoc]
  rfl

section

variable {p}

theorem length_positional (shaped : p.IsShaped) :
    p.positional.length = (p.positionalOnly ++ p.ordinary).length :=
  length_alignRight shaped.defaults_le

theorem map_fst_positional (shaped : p.IsShaped) :
    p.positional.map (·.1) = p.positionalOnly ++ p.ordinary :=
  map_fst_alignRight shaped.defaults_le

theorem map_param?_ofPair (xs : List (Param α × Option α)) :
    (xs.map ParamItem.ofPair).map ParamItem.param? = (xs.map (·.1)).map some := by
  rw [List.map_map, List.map_map]
  rfl

/-- Items that show parameters only show these. -/
theorem filterMap_param?_of_map {items : List (ParamItem α)} {params : List (Param α)}
    (h : items.map ParamItem.param? = params.map some) :
    items.filterMap ParamItem.param? = params :=
  (filterMap_of_map h).trans (by simp)

theorem filterMap_carrier?_ofPair (xs : List (Param α × Option α)) :
    (xs.map ParamItem.ofPair).filterMap ParamItem.carrier? = xs := by
  rw [List.filterMap_map]
  exact List.filterMap_some

theorem mark_of_mem_ofPair {xs : List (Param α × Option α)} {item : ParamItem α}
    (h : item ∈ xs.map ParamItem.ofPair) : item.mark = .plain := by
  obtain ⟨x, -, rfl⟩ := List.mem_map.1 h
  rfl

theorem map_param?_onlyItems (shaped : p.IsShaped) :
    p.onlyItems.map ParamItem.param? = p.positionalOnly.map some := by
  rw [onlyItems, map_param?_ofPair, List.map_take, map_fst_positional shaped, List.take_left]

theorem map_param?_ordinaryItems (shaped : p.IsShaped) :
    p.ordinaryItems.map ParamItem.param? = p.ordinary.map some := by
  rw [ordinaryItems, map_param?_ofPair, List.map_drop, map_fst_positional shaped, List.drop_left]

theorem map_param?_keywordItems (shaped : p.IsShaped) :
    p.keywordItems.map ParamItem.param? = p.keywordOnly.map some := by
  rw [keywordItems, map_param?_ofPair]
  exact congrArg _ (List.map_fst_zip shaped.keywordDefaults.ge)

theorem onlyItems_eq_nil (h : p.positionalOnly = []) : p.onlyItems = [] := by
  rw [onlyItems, h]
  rfl

theorem keywordItems_eq_nil (h : p.keywordOnly = []) : p.keywordItems = [] := by
  rw [keywordItems, h]
  rfl

end

/-! ## Splitting a list of items -/

/-- At the slash, if there is one, the parameters before it become positional-only. -/
theorem read_slashItems (rest : List (ParamItem α)) :
    Groups.read ParamItem.mark false ⟨[], p.onlyItems, none, [], none⟩ (p.slashItems ++ rest) =
      Groups.read ParamItem.mark false ⟨p.onlyItems, [], none, [], none⟩ rest := by
  unfold slashItems
  split
  · next hnone => rw [onlyItems_eq_nil (List.isEmpty_iff.1 hnone), List.nil_append]
  · rfl

theorem read_lastItems (starred : Bool) {g : Groups (ParamItem α)}
    (hnone : g.keywordVariadic = none) :
    Groups.read ParamItem.mark starred g p.lastItems =
      { g with keywordVariadic := p.keywordVariadic.map .keywordVariadic } := by
  unfold lastItems
  cases p.keywordVariadic with
  | none => rw [Option.map_none, ← hnone, Groups.read]
  | some v => rfl

/-- Without a star there are no keyword-only parameters. -/
theorem read_starItems {g : Groups (ParamItem α)} (hnone : g.variadic = none)
    (hnone' : g.keywordVariadic = none) :
    Groups.read ParamItem.mark false g (p.starItems ++ (p.keywordItems ++ p.lastItems)) =
      Groups.read ParamItem.mark true { g with variadic := p.variadic.map .variadic }
        (p.keywordItems ++ p.lastItems) := by
  unfold starItems
  cases p.variadic with
  | some v => rfl
  | none =>
      rw [Option.map_none, ← hnone]
      dsimp only
      split
      · next hkeywords =>
          rw [keywordItems_eq_nil (List.isEmpty_iff.1 hkeywords), List.nil_append, List.nil_append,
            read_lastItems p false hnone', read_lastItems p true hnone']
      · rfl

/-- Splitting the items gives the groups of parameters. -/
theorem ofList_items : Groups.ofList ParamItem.mark p.items =
    ⟨p.onlyItems, p.ordinaryItems, p.variadic.map .variadic, p.keywordItems,
      p.keywordVariadic.map .keywordVariadic⟩ := by
  have honly : ∀ item ∈ p.onlyItems, item.mark = .plain := fun _ => mark_of_mem_ofPair
  have hordinary : ∀ item ∈ p.ordinaryItems, item.mark = .plain := fun _ => mark_of_mem_ofPair
  have hkeywords : ∀ item ∈ p.keywordItems, item.mark = .plain := fun _ => mark_of_mem_ofPair
  have hfirst : Groups.empty.addPlain false p.onlyItems = ⟨[], p.onlyItems, none, [], none⟩ := rfl
  rw [items_eq, Groups.ofList, Groups.read_plain honly, hfirst, read_slashItems,
    Groups.read_plain hordinary, read_starItems p rfl rfl, Groups.read_plain hkeywords,
    read_lastItems p true rfl]
  rfl

theorem map_default?_ofPair (xs : List (Param α × Option α)) :
    (xs.map ParamItem.ofPair).map ParamItem.default? = xs.map (·.2) := by
  rw [List.map_map]
  rfl

/-- The groups show all parameters and defaults. -/
theorem params_ofList_items (shaped : p.IsShaped) :
    (Groups.ofList ParamItem.mark p.items).params = p := by
  have hdefaults : (p.onlyItems ++ p.ordinaryItems).filterMap ParamItem.default? = p.defaults := by
    rw [onlyItems, ordinaryItems, ← List.map_append, List.take_append_drop, List.filterMap_map]
    exact filterMap_snd_alignRight shaped.defaults_le
  have hkeywordDefaults : p.keywordItems.map ParamItem.default? = p.keywordDefaults := by
    rw [keywordItems, map_default?_ofPair]
    exact List.map_snd_zip shaped.keywordDefaults.le
  have hvariadic : (p.variadic.map ParamItem.variadic).bind ParamItem.param? = p.variadic := by
    cases p.variadic <;> rfl
  have hlast : (p.keywordVariadic.map ParamItem.keywordVariadic).bind ParamItem.param? =
      p.keywordVariadic := by
    cases p.keywordVariadic <;> rfl
  rw [ofList_items, Groups.params]
  dsimp only
  rw [filterMap_param?_of_map (map_param?_onlyItems shaped),
    filterMap_param?_of_map (map_param?_ordinaryItems shaped),
    filterMap_param?_of_map (map_param?_keywordItems shaped), hdefaults, hkeywordDefaults,
    hvariadic, hlast]

/-! ## What the items show -/

/-- The parameters that may carry defaults, each with the default that it carries. -/
def carriers (items : List (ParamItem α)) : List (Param α × Option α) :=
  items.filterMap ParamItem.carrier?

/-- A list of items shows the parameters once each in the order of declaration.  Counted from the
end, each positional parameter carries the default with the same number, if there is one, and each
keyword-only parameter its own.  A slash has exactly the positional-only parameters before it, and a
star exactly the keyword-only parameters and the one for further keyword arguments behind it. -/
structure Lists (items : List (ParamItem α)) : Prop where
  declared : items.filterMap ParamItem.param? = p.declared
  defaults : ∀ j : Nat,
    ((carriers items).take (p.positionalOnly ++ p.ordinary).length).reverse[j]? =
      (p.positionalOnly ++ p.ordinary).reverse[j]?.map fun q => (q, p.defaults.reverse[j]?)
  keywordDefaults :
    (carriers items).drop (p.positionalOnly ++ p.ordinary).length =
      p.keywordOnly.zip p.keywordDefaults
  slash : .slash ∈ items ↔ p.positionalOnly ≠ []
  before_slash : ∀ before after, items = before ++ .slash :: after →
    before.map ParamItem.param? = p.positionalOnly.map some
  star : .star ∈ items ↔ p.keywordOnly ≠ [] ∧ p.variadic = none
  after_star : ∀ before after, items = before ++ .star :: after →
    after.map ParamItem.param? = (p.keywordOnly ++ p.keywordVariadic.toList).map some

section

variable {p}

/-- The parts of the items that are not markers. -/
theorem filterMap_items {β : Type} (f : ParamItem α → Option β) (hslash : f .slash = none)
    (hstar : f .star = none) :
    p.items.filterMap f = (p.onlyItems ++ p.ordinaryItems).filterMap f ++
      p.variadic.toList.filterMap (f ∘ .variadic) ++ p.keywordItems.filterMap f ++
      p.keywordVariadic.toList.filterMap (f ∘ .keywordVariadic) := by
  have hslashItems : p.slashItems.filterMap f = [] := by
    unfold slashItems
    split <;> simp [hslash]
  have hstarItems : p.starItems.filterMap f = p.variadic.toList.filterMap (f ∘ .variadic) := by
    unfold starItems
    cases p.variadic with
    | some v => simp [List.filterMap_cons]
    | none =>
        dsimp only
        split <;> simp [hstar]
  have hlastItems : p.lastItems.filterMap f =
      p.keywordVariadic.toList.filterMap (f ∘ .keywordVariadic) := by
    unfold lastItems
    cases p.keywordVariadic <;> simp [List.filterMap_cons]
  simp only [items_eq, List.filterMap_append, hslashItems, hstarItems, hlastItems, List.nil_append,
    List.append_assoc]

theorem declared_items (shaped : p.IsShaped) :
    p.items.filterMap ParamItem.param? = p.declared := by
  rw [filterMap_items ParamItem.param? rfl rfl, List.filterMap_append,
    filterMap_param?_of_map (map_param?_onlyItems shaped),
    filterMap_param?_of_map (map_param?_ordinaryItems shaped),
    filterMap_param?_of_map (map_param?_keywordItems shaped)]
  simp [declared, Function.comp_def, ParamItem.param?]

theorem carriers_items :
    carriers p.items = p.positional ++ p.keywordOnly.zip p.keywordDefaults := by
  rw [carriers, filterMap_items ParamItem.carrier? rfl rfl, onlyItems, ordinaryItems,
    ← List.map_append, List.take_append_drop, keywordItems, filterMap_carrier?_ofPair,
    filterMap_carrier?_ofPair]
  simp [Function.comp_def, ParamItem.carrier?]

theorem mark_of_mem_starItems {item : ParamItem α} (h : item ∈ p.starItems) :
    item.mark = .star ∨ item.mark = .variadic := by
  unfold starItems at h
  split at h
  · exact .inr (congrArg ParamItem.mark (List.mem_singleton.1 h))
  · split at h
    · cases h
    · exact .inl (congrArg ParamItem.mark (List.mem_singleton.1 h))

theorem mark_of_mem_lastItems {item : ParamItem α} (h : item ∈ p.lastItems) :
    item.mark = .keywordVariadic := by
  unfold lastItems at h
  split at h
  · exact congrArg ParamItem.mark (List.mem_singleton.1 h)
  · cases h

theorem slash_notMem_behind :
    .slash ∉ p.ordinaryItems ++ (p.starItems ++ (p.keywordItems ++ p.lastItems)) := by
  intro h
  simp only [List.mem_append] at h
  rcases h with h | h | h | h
  · cases mark_of_mem_ofPair h
  · rcases mark_of_mem_starItems h with h | h <;> cases h
  · cases mark_of_mem_ofPair h
  · cases mark_of_mem_lastItems h

theorem star_notMem_behind : .star ∉ p.keywordItems ++ p.lastItems := by
  intro h
  rcases List.mem_append.1 h with h | h
  · cases mark_of_mem_ofPair h
  · cases mark_of_mem_lastItems h

theorem star_notMem_before : .star ∉ p.onlyItems ++ (p.slashItems ++ p.ordinaryItems) := by
  intro h
  simp only [List.mem_append] at h
  rcases h with h | h | h
  · cases mark_of_mem_ofPair h
  · unfold slashItems at h
    split at h <;> simp at h
  · cases mark_of_mem_ofPair h

/-- The items around the slash. -/
theorem items_around_slash (h : p.positionalOnly ≠ []) :
    p.items = p.onlyItems ++
      .slash :: (p.ordinaryItems ++ (p.starItems ++ (p.keywordItems ++ p.lastItems))) := by
  have hslash : p.slashItems = [.slash] := if_neg (by simpa using h)
  rw [items_eq, hslash]
  rfl

theorem slash_mem_items : .slash ∈ p.items ↔ p.positionalOnly ≠ [] := by
  refine ⟨fun hmem hnone => ?_, fun h => ?_⟩
  · have hslash : p.slashItems = [] := if_pos (by simpa using hnone)
    rw [items_eq, onlyItems_eq_nil hnone, hslash] at hmem
    exact slash_notMem_behind hmem
  · rw [items_around_slash h]
    exact List.mem_append_right _ List.mem_cons_self

theorem items_around_starItems :
    p.items = (p.onlyItems ++ (p.slashItems ++ p.ordinaryItems)) ++
      (p.starItems ++ (p.keywordItems ++ p.lastItems)) := by
  rw [items_eq, List.append_assoc, List.append_assoc]

theorem starItems_eq (hkeywords : p.keywordOnly ≠ []) (hvariadic : p.variadic = none) :
    p.starItems = [.star] := by
  rw [starItems, hvariadic]
  exact if_neg (by simpa using hkeywords)

theorem star_mem_starItems (h : .star ∈ p.starItems) :
    p.keywordOnly ≠ [] ∧ p.variadic = none := by
  unfold starItems at h
  split at h
  · cases List.mem_singleton.1 h
  · next hvariadic =>
      refine ⟨fun hnone => ?_, hvariadic⟩
      rw [hnone] at h
      cases h

theorem star_mem_items : .star ∈ p.items ↔ p.keywordOnly ≠ [] ∧ p.variadic = none := by
  rw [items_around_starItems]
  refine ⟨fun hmem => ?_, fun ⟨hkeywords, hvariadic⟩ => ?_⟩
  · rcases List.mem_append.1 hmem with h | h
    · exact absurd h star_notMem_before
    · exact star_mem_starItems ((List.mem_append.1 h).resolve_right star_notMem_behind)
  · rw [starItems_eq hkeywords hvariadic]
    exact List.mem_append_right _ List.mem_cons_self

theorem map_param?_lastItems :
    p.lastItems.map ParamItem.param? = p.keywordVariadic.toList.map some := by
  unfold lastItems
  cases p.keywordVariadic <;> rfl

theorem lists_items (shaped : p.IsShaped) : p.Lists p.items where
  declared := declared_items shaped
  defaults := by
    intro j
    rw [carriers_items, ← length_positional shaped, List.take_left]
    exact getElem?_reverse_alignRight shaped.defaults_le j
  keywordDefaults := by
    rw [carriers_items, ← length_positional shaped, List.drop_left]
  slash := slash_mem_items
  before_slash := by
    intro before after h
    have hslash : .slash ∈ p.items := by simp [h]
    have hsome := slash_mem_items.1 hslash
    rw [items_around_slash hsome] at h
    have honly : .slash ∉ p.onlyItems := fun hmem => by cases mark_of_mem_ofPair hmem
    obtain ⟨rfl, -, -⟩ := (List.append_cons_inj_of_notMem honly slash_notMem_behind).1 h
    exact map_param?_onlyItems shaped
  star := star_mem_items
  after_star := by
    intro before after h
    have hstar : .star ∈ p.items := by simp [h]
    obtain ⟨hkeywords, hvariadic⟩ := star_mem_items.1 hstar
    rw [items_around_starItems, starItems_eq hkeywords hvariadic] at h
    obtain ⟨-, -, rfl⟩ := (List.append_cons_inj_of_notMem star_notMem_before star_notMem_behind).1 h
    rw [List.map_append, map_param?_keywordItems shaped, map_param?_lastItems, List.map_append]

end

end

end Params

end CallAtlas.Source
