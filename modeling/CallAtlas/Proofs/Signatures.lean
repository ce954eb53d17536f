import CallAtlas.Proofs.ParameterLists
import CallAtlas.Source.Signature.Stepwise

/-!
# Signatures

A signature that is built step by step is the one written from the list of items: every default that
is looked up is found, and the slash is written where it stands among the items.  A text in the list
tells by its first characters whether it is a marker, so the texts can be split like the items.
-/

namespace CallAtlas.Source

namespace ParamItem

def build (item : ParamItem Expr) : Except BuildError String :=
  item.text.mapError .unwritten

theorem build_plain_none (q : Param Expr) :
    (ParamItem.plain q none).build = q.text.mapError .unwritten := rfl

theorem build_plain_some (q : Param Expr) (d : Expr) :
    (ParamItem.plain q (some d)).build = (do
      let head ← q.text.mapError .unwritten
      let value ← d.text.mapError .unwritten
      return head ++ "=" ++ value) := by
  simp only [build, text, mapError_bind]
  rfl

theorem build_slash : ParamItem.slash.build = pure "/" := rfl

theorem build_star : ParamItem.star.build = pure "*" := rfl

theorem build_variadic (q : Param Expr) :
    (ParamItem.variadic q).build = (do
      let text ← q.text.mapError .unwritten
      return "*" ++ text) := by
  simp only [build, text, mapError_bind]
  rfl

theorem build_keywordVariadic (q : Param Expr) :
    (ParamItem.keywordVariadic q).build = (do
      let text ← q.text.mapError .unwritten
      return "**" ++ text) := by
  simp only [build, text, mapError_bind]
  rfl

end ParamItem

namespace Params

section

variable {α : Type} {p : Params α}

/-- The default that belongs to the positional parameter with an index. -/
def defaultAt (p : Params α) (index : Nat) : Option α :=
  if p.firstDefault ≤ index then elementAt? p.defaults (index - p.firstDefault) else none

/-- Every index that is looked up is one of the list of defaults. -/
theorem lookup_in_range {i : Nat} (hi : i < (p.positionalOnly ++ p.ordinary).length)
    (hfirst : p.firstDefault ≤ i) :
    0 ≤ i - p.firstDefault ∧ i - p.firstDefault < p.defaults.length := by
  rw [firstDefault] at hfirst ⊢
  omega

theorem elementAt?_of_nonneg {xs : List α} {index : Int} (h : 0 ≤ index) :
    elementAt? xs index = xs[index.toNat]? := by
  have hnot : ¬ index < 0 := by omega
  rw [elementAt?, if_neg hnot, if_neg hnot]

theorem exists_default {i : Nat} (hi : i < (p.positionalOnly ++ p.ordinary).length)
    (hfirst : p.firstDefault ≤ i) :
    ∃ d, elementAt? p.defaults (i - p.firstDefault) = some d := by
  obtain ⟨hlow, hhigh⟩ := lookup_in_range hi hfirst
  rw [elementAt?_of_nonneg hlow]
  exact ⟨_, List.getElem?_eq_getElem (by omega)⟩

theorem defaultAt_eq (shaped : p.IsShaped) (i : Nat) :
    p.defaultAt i =
      if (p.positionalOnly ++ p.ordinary).length - p.defaults.length ≤ i then
        p.defaults[i - ((p.positionalOnly ++ p.ordinary).length - p.defaults.length)]?
      else none := by
  have hdefaults := shaped.defaults_le
  have hfirst : p.firstDefault =
      ((p.positionalOnly ++ p.ordinary).length - p.defaults.length : Nat) := by
    rw [firstDefault]
    omega
  rw [defaultAt, hfirst]
  split
  · next h =>
      rw [if_pos (by omega), elementAt?_of_nonneg (by omega)]
      congr 1
      omega
  · next h => rw [if_neg (by omega)]

/-- The positional parameters carry the defaults that belong to their indices. -/
theorem positional_eq (shaped : p.IsShaped) :
    p.positional =
      (p.positionalOnly ++ p.ordinary).zipIdx.map fun x => (x.1, p.defaultAt x.2) := by
  refine List.ext_getElem? fun i => ?_
  rw [positional, getElem?_alignRight shaped.defaults_le, List.getElem?_map,
    List.getElem?_zipIdx, Option.map_map]
  congr 1
  funext q
  simp only [Function.comp_apply, Nat.zero_add, defaultAt_eq shaped]

end

section

variable {p : Params Expr}

/-- The items that a step adds for a positional parameter. -/
def stepItems (p : Params Expr) (x : Param Expr × Nat) : List (ParamItem Expr) :=
  .plain x.1 (p.defaultAt x.2) ::
    if p.positionalOnly ≠ [] ∧ (x.2 : Int) = p.positionalOnly.length - 1 then [.slash] else []

theorem buildPositional_eq (q : Param Expr) {i : Nat}
    (hi : i < (p.positionalOnly ++ p.ordinary).length) :
    p.buildPositional q i = (ParamItem.plain q (p.defaultAt i)).build := by
  unfold buildPositional defaultAt
  by_cases hfirst : p.firstDefault ≤ i
  · obtain ⟨d, hd⟩ := exists_default hi hfirst
    simp only [if_pos hfirst, buildDefault, hd, ParamItem.build_plain_some]
  · simp only [if_neg hfirst, ParamItem.build_plain_none, bind_pure]

theorem addPositional_eq {x : Param Expr × Nat}
    (hx : x ∈ (p.positionalOnly ++ p.ordinary).zipIdx) (texts : List String) :
    p.addPositional texts x = (texts ++ ·) <$> (p.stepItems x).mapM ParamItem.build := by
  have hi : x.2 < (p.positionalOnly ++ p.ordinary).length := by
    simpa using (List.mem_zipIdx hx).2.1
  rw [addPositional, buildPositional_eq x.1 hi, stepItems, List.mapM_cons]
  split
  · simp [ParamItem.build_slash]
  · simp

theorem addVariadic_eq (texts : List String) :
    p.addVariadic texts = (texts ++ ·) <$> p.starItems.mapM ParamItem.build := by
  unfold addVariadic starItems
  cases p.variadic with
  | some v => simp [ParamItem.build_variadic]
  | none =>
      dsimp only
      by_cases hkeywords : p.keywordOnly = []
      · rw [if_pos hkeywords, if_pos (by simpa using hkeywords), List.mapM_nil, map_pure,
          List.append_nil]
        rfl
      · rw [if_neg hkeywords, if_neg (by simpa using hkeywords)]
        rfl

theorem addKeyword_eq (x : Param Expr × Option Expr) (texts : List String) :
    addKeyword texts x = (texts ++ ·) <$> [ParamItem.ofPair x].mapM ParamItem.build := by
  obtain ⟨q, d⟩ := x
  cases d with
  | none => simp [addKeyword, ParamItem.ofPair, ParamItem.build_plain_none]
  | some d => simp [addKeyword, ParamItem.ofPair, ParamItem.build_plain_some]

theorem addKeywordVariadic_eq (texts : List String) :
    p.addKeywordVariadic texts = (texts ++ ·) <$> p.lastItems.mapM ParamItem.build := by
  unfold addKeywordVariadic lastItems
  cases p.keywordVariadic with
  | some v => simp [ParamItem.build_keywordVariadic]
  | none =>
      dsimp only
      rw [List.mapM_nil, map_pure, List.append_nil]
      rfl

end

section

variable {p : Params Expr}

/-- No slash is added behind ordinary parameters. -/
theorem flatMap_stepItems_of_le (xs : List (Param Expr)) {k : Nat}
    (hk : p.positionalOnly.length ≤ k) :
    (xs.zipIdx k).flatMap p.stepItems =
      ((xs.zipIdx k).map fun x => (x.1, p.defaultAt x.2)).map ParamItem.ofPair := by
  rw [List.map_map, List.map_eq_flatMap]
  refine List.flatMap_congr fun x hx => ?_
  have hle := (List.mem_zipIdx hx).1
  rw [stepItems, if_neg (by omega)]
  rfl

/-- The slash is added with the last of the positional-only parameters. -/
theorem flatMap_stepItems_of_add (xs : List (Param Expr)) {k : Nat}
    (hk : k + xs.length = p.positionalOnly.length) :
    (xs.zipIdx k).flatMap p.stepItems =
      ((xs.zipIdx k).map fun x => (x.1, p.defaultAt x.2)).map ParamItem.ofPair ++
        if xs.isEmpty then [] else [.slash] := by
  -- The parameters that are left end where the positional-only ones do.
  induction xs generalizing k with
  | nil => rfl
  | cons q xs ih =>
      rw [List.length_cons] at hk
      have hsome : p.positionalOnly ≠ [] := List.ne_nil_of_length_pos (by omega)
      rw [List.zipIdx_cons, List.flatMap_cons, ih (by omega), stepItems]
      cases xs with
      | nil =>
          rw [List.length_nil] at hk
          rw [if_pos ⟨hsome, by omega⟩]
          rfl
      | cons q' xs =>
          rw [List.length_cons] at hk
          rw [if_neg (by omega)]
          rfl

theorem flatMap_stepItems (shaped : p.IsShaped) :
    (p.positionalOnly ++ p.ordinary).zipIdx.flatMap p.stepItems =
      p.onlyItems ++ (p.slashItems ++ p.ordinaryItems) := by
  have hlength : (p.positionalOnly.zipIdx.map fun x => (x.1, p.defaultAt x.2)).length =
      p.positionalOnly.length := by
    rw [List.length_map, List.length_zipIdx]
  rw [onlyItems, ordinaryItems, positional_eq shaped, List.zipIdx_append, List.map_append,
    List.take_left' hlength, List.drop_left' hlength, List.flatMap_append,
    flatMap_stepItems_of_add _ (Nat.zero_add _),
    flatMap_stepItems_of_le _ (Nat.le_add_left _ _), List.append_assoc]
  rfl

/-- The texts that are built one after the other are those of the items. -/
theorem build_eq (shaped : p.IsShaped) : p.build = p.items.mapM ParamItem.build := by
  have hpositional : (p.positionalOnly ++ p.ordinary).zipIdx.foldlM p.addPositional [] =
      (p.onlyItems ++ (p.slashItems ++ p.ordinaryItems)).mapM ParamItem.build := by
    rw [foldlM_append (fun x hx => addPositional_eq hx) [], flatMap_stepItems shaped]
    exact id_map _
  have hkeywords : ∀ texts, (p.keywordOnly.zip p.keywordDefaults).foldlM addKeyword texts =
      (texts ++ ·) <$> p.keywordItems.mapM ParamItem.build := by
    intro texts
    rw [foldlM_append (fun x _ => addKeyword_eq x) texts, ← List.map_eq_flatMap, keywordItems]
  rw [build, hpositional, items_around_starItems, List.mapM_append]
  simp [addVariadic_eq, hkeywords, addKeywordVariadic_eq]

end

end Params

/-- Building a signature step by step gives the signature, or the reason why it has no text. -/
theorem FunctionHead.build_eq {h : FunctionHead} (shaped : h.params.IsShaped) :
    h.build = h.signature.mapError .unwritten := by
  rw [build, signature, mapError_bind, mapError_mapM, Params.build_eq shaped]
  refine congrArg _ (funext fun texts => ?_)
  cases h.returns with
  | none => rfl
  | some e =>
      dsimp only
      rw [mapError_bind]
      rfl

/-! ## Texts that tell what they stand for -/

/-- A name starts with none of the characters that markers are made of. -/
theorem Ident.head_not_marker (name : Ident) :
    ∃ c rest, name.text.toList = c :: rest ∧ c ≠ '/' ∧ c ≠ '*' := by
  obtain ⟨text, valid⟩ := name
  cases hchars : text.toList with
  | nil =>
      rw [hchars] at valid
      cases valid
  | cons c rest =>
      rw [hchars] at valid
      have hc := (Bool.and_eq_true_iff.1 valid).1
      refine ⟨c, rest, rfl, ?_, ?_⟩
      · rintro rfl
        exact absurd hc (by decide)
      · rintro rfl
        exact absurd hc (by decide)

theorem Param.head_not_marker {q : Param Expr} {t : String} (h : q.text = .ok t) :
    ∃ c rest, t.toList = c :: rest ∧ c ≠ '/' ∧ c ≠ '*' := by
  obtain ⟨c, rest, hname, hc⟩ := q.name.head_not_marker
  unfold text at h
  split at h
  · obtain ⟨a, -, ha⟩ := bind_ok h
    obtain rfl := Except.ok.inj ha
    exact ⟨c, rest ++ (": ".toList ++ a.toList), by simp [hname], hc⟩
  · obtain rfl := Except.ok.inj h
    exact ⟨c, rest, hname, hc⟩

theorem Mark.ofText_of_head {t : String} {c : Char} {rest : List Char} (h : t.toList = c :: rest)
    (hslash : c ≠ '/') (hstar : c ≠ '*') : Mark.ofText t = .plain := by
  unfold Mark.ofText
  rw [h]
  split <;> simp_all

/-- The text of an item tells what the item stands for. -/
theorem ParamItem.ofText_text {item : ParamItem Expr} {t : String} (h : item.text = .ok t) :
    Mark.ofText t = item.mark := by
  cases item with
  | plain q d =>
      cases d with
      | none =>
          obtain ⟨c, rest, hchars, hslash, hstar⟩ := Param.head_not_marker h
          exact Mark.ofText_of_head hchars hslash hstar
      | some d =>
          obtain ⟨head, hhead, h⟩ := bind_ok h
          obtain ⟨value, -, h⟩ := bind_ok h
          obtain rfl := Except.ok.inj h
          obtain ⟨c, rest, hchars, hslash, hstar⟩ := Param.head_not_marker hhead
          have hall : (head ++ "=" ++ value).toList = c :: (rest ++ '=' :: value.toList) := by
            simp [hchars]
          exact Mark.ofText_of_head hall hslash hstar
  | slash =>
      obtain rfl := Except.ok.inj h
      decide
  | star =>
      obtain rfl := Except.ok.inj h
      decide
  | variadic q =>
      obtain ⟨text, htext, h⟩ := bind_ok h
      obtain rfl := Except.ok.inj h
      obtain ⟨c, rest, hchars, -, hstar⟩ := Param.head_not_marker htext
      have hall : ("*" ++ text).toList = '*' :: c :: rest := by simp [hchars]
      unfold Mark.ofText
      rw [hall]
      split <;> simp_all [mark]
  | keywordVariadic q =>
      obtain ⟨text, htext, h⟩ := bind_ok h
      obtain rfl := Except.ok.inj h
      have hall : ("**" ++ text).toList = '*' :: '*' :: text.toList := by simp
      unfold Mark.ofText
      rw [hall]
      rfl

/-- Texts are those of the items of a parameter list, and they can be split like the items. -/
structure Params.Writes (p : Params Expr) (write : ParamItem Expr → String)
    (texts : List String) : Prop where
  text : ∀ item ∈ p.items, item.text = .ok (write item)
  texts_eq : texts = p.items.map write
  marks : texts.map Mark.ofText = p.items.map ParamItem.mark
  groups : Groups.ofList Mark.ofText texts = (Groups.ofList ParamItem.mark p.items).map write

/-- The text of an item; no text if it cannot be written. -/
def ParamItem.written (item : ParamItem Expr) : String := item.text.toOption.getD ""

theorem ParamItem.text_of_build {item : ParamItem Expr} {t : String} (h : item.build = .ok t) :
    item.text = .ok item.written := by
  unfold build at h
  unfold written
  cases htext : item.text with
  | error e =>
      rw [htext] at h
      cases h
  | ok t' => rfl

theorem Params.writes_of_build {p : Params Expr} (shaped : p.IsShaped) {texts : List String}
    (h : p.build = .ok texts) : p.Writes ParamItem.written texts := by
  rw [build_eq shaped] at h
  have htext : ∀ item ∈ p.items, item.text = .ok item.written := by
    intro item hitem
    obtain ⟨t, -, ht⟩ := exists_right_of_forall₂ (mapM_ok h) hitem
    exact ParamItem.text_of_build ht
  have hbuild : ∀ item ∈ p.items, item.build = .ok item.written := by
    intro item hitem
    rw [ParamItem.build, htext item hitem]
    rfl
  have htexts : texts = p.items.map ParamItem.written :=
    Except.ok.inj (h.symm.trans (mapM_eq_ok_map hbuild))
  have hmark : ∀ item ∈ p.items, Mark.ofText item.written = item.mark :=
    fun item hitem => ParamItem.ofText_text (htext item hitem)
  refine ⟨htext, htexts, ?_, ?_⟩
  · rw [htexts, List.map_map]
    exact List.map_congr_left hmark
  · rw [htexts]
    exact Groups.ofList_map hmark

/-! ## When there is a signature -/

def Expr.IsWritable (e : Expr) : Prop := ∃ t, e.text = .ok t

def ParamItem.exprs {α : Type} (item : ParamItem α) : List α :=
  (item.param?.bind Param.annotation).toList ++ item.default?.toList

theorem Param.exists_text_iff {q : Param Expr} :
    (∃ t, q.text = .ok t) ↔ ∀ e ∈ q.annotation.toList, e.IsWritable := by
  unfold text
  cases q.annotation with
  | none => simp
  | some a =>
      dsimp only
      rw [exists_bind_ok]
      simp [pure, Except.pure, Expr.IsWritable]

theorem ParamItem.exists_text_iff {item : ParamItem Expr} :
    (∃ t, item.text = .ok t) ↔ ∀ e ∈ item.exprs, e.IsWritable := by
  cases item with
  | plain q d =>
      cases d with
      | none => simpa [exprs, param?, default?, text] using Param.exists_text_iff
      | some d =>
          rw [show (ParamItem.plain q (some d)).exprs = q.annotation.toList ++ [d] from rfl,
            List.forall_mem_append, ← Param.exists_text_iff, List.forall_mem_singleton]
          simp only [text, exists_bind_ok]
          simp [pure, Except.pure, Expr.IsWritable]
  | slash => simp [exprs, param?, default?, text]
  | star => simp [exprs, param?, default?, text]
  | variadic q =>
      simp only [text, exists_bind_ok]
      simpa [exprs, param?, default?, pure, Except.pure] using Param.exists_text_iff
  | keywordVariadic q =>
      simp only [text, exists_bind_ok]
      simpa [exprs, param?, default?, pure, Except.pure] using Param.exists_text_iff

namespace Params

section

variable {α : Type} {p : Params α}

theorem annotations_items (shaped : p.IsShaped) :
    p.items.filterMap (fun item => item.param?.bind Param.annotation) =
      p.declared.filterMap Param.annotation := by
  rw [← declared_items shaped, List.filterMap_filterMap]

theorem defaults_items (shaped : p.IsShaped) :
    p.items.filterMap ParamItem.default? = p.defaults ++ p.keywordDefaults.filterMap id := by
  have hcarried : (ParamItem.default? : ParamItem α → Option α) =
      fun item => item.carrier?.bind (·.2) := by
    funext item
    cases item <;> rfl
  have hdefaults : p.positional.filterMap (·.2) = p.defaults :=
    filterMap_snd_alignRight shaped.defaults_le
  have hkeywords : (p.keywordOnly.zip p.keywordDefaults).filterMap (·.2) =
      p.keywordDefaults.filterMap id :=
    filterMap_of_map (List.map_snd_zip shaped.keywordDefaults.le)
  rw [hcarried, ← List.filterMap_filterMap, ← carriers, carriers_items, List.filterMap_append,
    hdefaults, hkeywords]

/-- The items hold the annotations and defaults of the parameters and no other expressions. -/
theorem mem_exprs_iff (shaped : p.IsShaped) {e : α} :
    e ∈ p.exprs ↔ ∃ item ∈ p.items, e ∈ item.exprs := by
  have hitems : (∃ item ∈ p.items, e ∈ item.exprs) ↔
      e ∈ p.items.filterMap (fun item => item.param?.bind Param.annotation) ∨
        e ∈ p.items.filterMap ParamItem.default? := by
    simp only [ParamItem.exprs, List.mem_append, Option.mem_toList, List.mem_filterMap, and_or_left,
      exists_or]
  -- The two sides list the same groups, the defaults in different places.
  rw [hitems, annotations_items shaped, defaults_items shaped, declared, List.filterMap_append]
  simp only [exprs, List.mem_append, or_assoc, or_comm]

end

end Params

namespace FunctionHead

def exprs (h : FunctionHead) : List Expr := h.params.exprs ++ h.returns.toList

theorem exists_signature_iff {h : FunctionHead} (shaped : h.params.IsShaped) :
    (∃ sig, h.signature = .ok sig) ↔ ∀ e ∈ h.exprs, e.IsWritable := by
  have hparams : (∃ texts, h.params.items.mapM ParamItem.text = .ok texts) ↔
      ∀ e ∈ h.params.exprs, e.IsWritable := by
    constructor
    · rintro ⟨texts, htexts⟩ e he
      obtain ⟨item, hitem, he⟩ := (Params.mem_exprs_iff shaped).1 he
      obtain ⟨t, -, ht⟩ := exists_right_of_forall₂ (mapM_ok htexts) hitem
      exact ParamItem.exists_text_iff.1 ⟨t, ht⟩ e he
    · intro hwritable
      refine mapM_eq_ok fun item hitem => ParamItem.exists_text_iff.2 fun e he => ?_
      exact hwritable e ((Params.mem_exprs_iff shaped).2 ⟨item, hitem, he⟩)
  rw [exprs, List.forall_mem_append, ← hparams, signature, exists_bind_ok]
  cases h.returns with
  | none => simp [pure, Except.pure]
  | some e =>
      simp only [exists_bind_ok]
      simp [pure, Except.pure, Expr.IsWritable]

/-- If the parameters of a function have the shape of those of a definition, its signature is built
without looking up a default that does not exist: it is the signature, which exists exactly if all
expressions in the head have texts.  The items of the parameter list show the parameters with their
defaults, slash and star at their places, and splitting the list at these markers gives back what it
shows.  The texts that are joined are those of the items and can be split in the same way. -/
theorem build_lists_parameters (h : FunctionHead) (shaped : h.params.IsShaped) :
    (∀ i : Nat, i < (h.params.positionalOnly ++ h.params.ordinary).length →
      h.params.firstDefault ≤ i →
      0 ≤ i - h.params.firstDefault ∧ i - h.params.firstDefault < h.params.defaults.length) ∧
    h.build = h.signature.mapError .unwritten ∧
    ((∃ sig, h.signature = .ok sig) ↔ ∀ e ∈ h.exprs, e.IsWritable) ∧
    h.params.Lists h.params.items ∧
    (Groups.ofList ParamItem.mark h.params.items).params = h.params ∧
    ∀ texts, h.params.build = .ok texts → ∃ write, h.params.Writes write texts :=
  ⟨fun _ => Params.lookup_in_range, build_eq shaped, exists_signature_iff shaped,
    Params.lists_items shaped, Params.params_ofList_items h.params shaped,
    fun _ htexts => ⟨ParamItem.written, Params.writes_of_build shaped htexts⟩⟩

/-- A head with two defaults, one on each side of the slash, and a keyword-only parameter without a
default. -/
def divided : FunctionHead where
  isAsync := true
  name := ⟨"send", by decide⟩
  params :=
    { positionalOnly :=
        [⟨⟨"host", by decide⟩, none⟩,
          ⟨⟨"port", by decide⟩, some (.name ⟨"int", by decide⟩ .load 1)⟩]
      ordinary := [⟨⟨"path", by decide⟩, none⟩]
      variadic := none
      keywordOnly := [⟨⟨"retries", by decide⟩, none⟩, ⟨⟨"timeout", by decide⟩, none⟩]
      keywordDefaults := [none, some (.literal .none)]
      keywordVariadic := some ⟨⟨"options", by decide⟩, none⟩
      defaults := [.literal (.integer 80), .literal .none] }
  returns := some (.name ⟨"bytes", by decide⟩ .load 1)
  span := ⟨1, 2⟩

/-- Both markers are written, and the defaults go to the last two positional parameters. -/
theorem build_lists_parameters_divided :
    divided.params.IsShaped ∧
    divided.build = .ok ("async def send(host, port: int=80, /, path=None, *, retries, " ++
      "timeout=None, **options) -> bytes") ∧
    divided.params.Lists divided.params.items ∧
    (Groups.ofList ParamItem.mark divided.params.items).params = divided.params := by
  have shaped : divided.params.IsShaped := ⟨by decide, by decide⟩
  have hsignature : divided.signature =
      .ok ("async def send(host, port: int=80, /, path=None, *, retries, " ++
        "timeout=None, **options) -> bytes") := by
    decide +kernel
  obtain ⟨-, hbuild, -, hlists, hgroups, -⟩ := build_lists_parameters divided shaped
  rw [hsignature] at hbuild
  exact ⟨shaped, hbuild, hlists, hgroups⟩

end FunctionHead

end CallAtlas.Source
