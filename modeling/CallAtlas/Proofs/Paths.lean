import CallAtlas.Project.Host
import CallAtlas.Project.SearchScope
import Mathlib.Data.List.Infix
import Mathlib.Data.String.Basic

/-!
# Path texts and locations

A location holds names, and its path text shows them between slashes.  No name holds a slash, so the
names can be read off the text again, and one text starts with another one and a slash exactly if the
names of the one start with those of the other.
-/

namespace CallAtlas

namespace Text

theorem splitChars_ne_nil (separator : Char) (s : List Char) : splitChars separator s ≠ [] := by
  cases s with
  | nil => exact List.cons_ne_nil _ _
  | cons c rest =>
      rw [splitChars]
      split
      · exact List.cons_ne_nil _ _
      · split <;> exact List.cons_ne_nil _ _

theorem splitChars_of_notMem {separator : Char} {s : List Char} (h : separator ∉ s) :
    splitChars separator s = [s] := by
  induction s with
  | nil => rfl
  | cons c rest ih =>
      rw [List.mem_cons, not_or] at h
      rw [splitChars, if_neg (Ne.symm h.1), ih h.2]

theorem splitChars_append (separator : Char) (s rest : List Char) :
    splitChars separator (s ++ separator :: rest) =
      splitChars separator s ++ splitChars separator rest := by
  induction s with
  | nil => simp [splitChars]
  | cons c s ih =>
      rw [List.cons_append, splitChars, splitChars, ih]
      split
      · rfl
      · cases hpieces : splitChars separator s with
        | nil => exact absurd hpieces (splitChars_ne_nil separator s)
        | cons piece pieces => rfl

/-- The pieces of a text hold characters of the text, but not the one between them. -/
theorem mem_of_mem_splitChars {separator c : Char} {s piece : List Char}
    (hpiece : piece ∈ splitChars separator s) (hc : c ∈ piece) : c ∈ s ∧ c ≠ separator := by
  induction s generalizing piece with
  | nil =>
      obtain rfl := List.mem_singleton.1 hpiece
      cases hc
  | cons first rest ih =>
      have hrest : ∀ piece ∈ splitChars separator rest, c ∈ piece →
          c ∈ first :: rest ∧ c ≠ separator := by
        intro piece hpiece hc
        exact (ih hpiece hc).imp_left (List.mem_cons_of_mem first)
      rw [splitChars] at hpiece
      split at hpiece
      · rcases List.mem_cons.1 hpiece with rfl | hpiece
        · cases hc
        · exact hrest piece hpiece hc
      · rename_i hne
        cases hpieces : splitChars separator rest with
        | nil => exact absurd hpieces (splitChars_ne_nil separator rest)
        | cons head pieces =>
            rw [hpieces] at hpiece hrest
            rcases List.mem_cons.1 hpiece with rfl | hpiece
            · rcases List.mem_cons.1 hc with rfl | hc
              · exact ⟨List.mem_cons_self, hne⟩
              · exact hrest head List.mem_cons_self hc
            · exact hrest piece (List.mem_cons_of_mem _ hpiece) hc

/-- A text that is joined holds characters of its parts and of what stands between them. -/
theorem mem_intercalate {separator : String} {parts : List String} {c : Char}
    (hc : c ∈ (String.intercalate separator parts).toList) :
    c ∈ separator.toList ∨ ∃ part ∈ parts, c ∈ part.toList := by
  induction parts with
  | nil => exact absurd hc List.not_mem_nil
  | cons part parts ih =>
      cases parts with
      | nil => exact .inr ⟨part, List.mem_cons_self, by simpa using hc⟩
      | cons second parts =>
          simp only [String.intercalate_cons_cons, String.toList_append, List.mem_append] at hc
          rcases hc with (hc | hc) | hc
          · exact .inr ⟨part, List.mem_cons_self, hc⟩
          · exact .inl hc
          · rcases ih hc with hc | ⟨other, hother, hc⟩
            · exact .inl hc
            · exact .inr ⟨other, List.mem_cons_of_mem _ hother, hc⟩

end Text

theorem notMem_of_mem_split {separator : Char} {s part : String}
    (h : part ∈ Text.split separator s) : separator ∉ part.toList := by
  obtain ⟨piece, hpiece, rfl⟩ := List.mem_map.1 h
  rw [String.toList_ofList]
  exact fun hseparator => (Text.mem_of_mem_splitChars hpiece hseparator).2 rfl

namespace Project

/-- A text that can stand between two slashes in the written form of a path. -/
def IsPart (part : String) : Prop := part ≠ "" ∧ part ≠ "." ∧ '/' ∉ part.toList

def IsName (part : String) : Prop := IsPart part ∧ part ≠ ".." ∧ '\x00' ∉ part.toList

instance (part : String) : Decidable (IsPart part) := inferInstanceAs (Decidable (_ ∧ _))

instance (part : String) : Decidable (IsName part) := inferInstanceAs (Decidable (_ ∧ _))

namespace Path

theorem toList_joinParts_append {parts rest : List String} (hparts : parts ≠ [])
    (hrest : rest ≠ []) :
    (joinParts (parts ++ rest)).toList =
      (joinParts parts).toList ++ '/' :: (joinParts rest).toList := by
  rw [joinParts, String.intercalate_append_of_ne_nil hparts hrest]
  simp [joinParts]

/-- Names that are joined fall apart again. -/
theorem splitChars_joinParts {parts : List String} (hne : parts ≠ [])
    (h : ∀ part ∈ parts, IsPart part) :
    Text.splitChars '/' (joinParts parts).toList = parts.map String.toList := by
  induction parts with
  | nil => exact absurd rfl hne
  | cons part parts ih =>
      obtain ⟨hpart, hparts⟩ := List.forall_mem_cons.1 h
      have hfirst : Text.splitChars '/' (joinParts [part]).toList = [part.toList] := by
        rw [joinParts, String.intercalate_singleton]
        exact Text.splitChars_of_notMem hpart.2.2
      by_cases hnil : parts = []
      · rw [hnil, hfirst]
        rfl
      · rw [← List.singleton_append, toList_joinParts_append (List.cons_ne_nil _ _) hnil,
          Text.splitChars_append, hfirst, ih hnil hparts]
        rfl

theorem split_joinParts {parts : List String} (hne : parts ≠ []) (h : ∀ part ∈ parts, IsPart part) :
    Text.split '/' (joinParts parts) = parts := by
  rw [Text.split, splitChars_joinParts hne h, List.map_map]
  simp [Function.comp_def]

theorem parts_joinParts {names : List String} (h : ∀ part ∈ names, IsPart part) :
    parts (joinParts names) = names := by
  by_cases hne : names = []
  · rw [hne]
    decide
  · rw [parts, components, split_joinParts hne h]
    refine List.filter_eq_self.2 fun name hname => ?_
    exact decide_eq_true ⟨(h name hname).1, (h name hname).2.1⟩

theorem joinParts_inj {names names' : List String} (h : ∀ part ∈ names, IsPart part)
    (h' : ∀ part ∈ names', IsPart part) (heq : joinParts names = joinParts names') : names = names' := by
  rw [← parts_joinParts h, heq, parts_joinParts h']

/-- A path of names is covered by another one exactly if its names start with those of the other. -/
theorem covers_joinParts_iff {root names : List String} (hroot : ∀ part ∈ root, IsPart part)
    (hnames : ∀ part ∈ names, IsPart part) :
    SearchScope.covers (joinParts root) (joinParts names) = true ↔ root <+: names := by
  unfold SearchScope.covers Text.startsWith
  rw [Bool.or_eq_true, Bool.or_eq_true, beq_iff_eq, beq_iff_eq, List.isPrefixOf_iff_prefix,
    String.toList_append]
  constructor
  · rintro ((hempty | heq) | ⟨rest, hrest⟩)
    · obtain rfl : root = [] := joinParts_inj hroot (List.forall_mem_nil _) hempty
      exact List.nil_prefix
    · obtain rfl := joinParts_inj hnames hroot heq
      exact List.prefix_rfl
    · by_cases hnil : root = []
      · exact hnil ▸ List.nil_prefix
      · have hne : names ≠ [] := by
          rintro rfl
          simp [joinParts] at hrest
        have hsplit := splitChars_joinParts hne hnames
        rw [← hrest, List.append_assoc] at hsplit
        have happend : root ++ (Text.splitChars '/' rest).map String.ofList = names := by
          have hpieces := Text.splitChars_append '/' (joinParts root).toList rest
          rw [splitChars_joinParts hnil hroot] at hpieces
          have hmap := congrArg (List.map String.ofList) (hpieces.symm.trans hsplit)
          simpa [Function.comp_def] using hmap
        exact ⟨_, happend⟩
  · rintro ⟨rest, rfl⟩
    by_cases hnil : root = []
    · exact .inl (.inl (hnil ▸ rfl))
    · by_cases hrest : rest = []
      · exact .inl (.inr (by rw [hrest, List.append_nil]))
      · refine .inr ⟨(joinParts rest).toList, ?_⟩
        rw [toList_joinParts_append hnil hrest]
        simp

theorem isPart_of_mem_parts {path part : String} (h : part ∈ parts path) : IsPart part := by
  obtain ⟨hmem, hplain⟩ := List.mem_filter.1 h
  have hplain := of_decide_eq_true hplain
  exact ⟨hplain.1, hplain.2, notMem_of_mem_split hmem⟩

/-- A path without a null character has no part with one. -/
theorem parts_without_null {path : String} (h : ¬ path.toList.contains '\x00' = true) :
    ∀ part ∈ parts path, IsPart part ∧ '\x00' ∉ part.toList := by
  intro part hpart
  refine ⟨isPart_of_mem_parts hpart, fun hc => h (List.contains_iff_mem.2 ?_)⟩
  obtain ⟨piece, hpiece, rfl⟩ := List.mem_map.1 (List.mem_filter.1 hpart).1
  rw [String.toList_ofList] at hc
  exact (Text.mem_of_mem_splitChars hpiece hc).1

theorem mem_joinParts {names : List String} {c : Char} (hc : c ∈ (joinParts names).toList) :
    c = '/' ∨ ∃ part ∈ names, c ∈ part.toList :=
  (Text.mem_intercalate hc).imp_left List.mem_singleton.1

theorem root_cases (path : String) : root path = "" ∨ root path = "/" ∨ root path = "//" := by
  unfold root
  split <;> simp

theorem parts_slash_append (s : String) : parts ("/" ++ s) = parts s := by
  simp [parts, components, Text.split, Text.splitChars]

theorem head?_joinParts {names : List String} (h : ∀ part ∈ names, IsPart part) :
    (joinParts names).toList.head? ≠ some '/' := by
  cases names with
  | nil => simp [joinParts]
  | cons part names =>
      obtain ⟨hempty, -, hslash⟩ := h part List.mem_cons_self
      obtain ⟨c, cs, hpart⟩ : ∃ c cs, part.toList = c :: cs :=
        List.exists_cons_of_ne_nil (by simpa using hempty)
      have hc : c ≠ '/' := by
        rintro rfl
        exact hslash (hpart ▸ List.mem_cons_self)
      cases names <;> simp [joinParts, hpart, hc]

/-- The parts of a written form are those that were joined. -/
theorem parts_root_append (path : String) {names : List String}
    (h : ∀ part ∈ names, IsPart part) : parts (root path ++ joinParts names) = names := by
  rcases root_cases path with hroot | hroot | hroot
  · rw [hroot, String.empty_append, parts_joinParts h]
  · rw [hroot, parts_slash_append, parts_joinParts h]
  · rw [hroot, show "//" = "/" ++ "/" from rfl, String.append_assoc, parts_slash_append,
      parts_slash_append, parts_joinParts h]

theorem root_append (path : String) {s : String} (h : s.toList.head? ≠ some '/') :
    root (root path ++ s) = root path := by
  cases hs : s.toList with
  | nil =>
      obtain rfl : s = "" := by simpa using hs
      rcases root_cases path with hroot | hroot | hroot <;> rw [hroot] <;> decide
  | cons c cs =>
      have hc : c ≠ '/' := by simpa [hs] using h
      rcases root_cases path with hroot | hroot | hroot
      all_goals
        rw [hroot, root, String.toList_append, hs]
        simp [hc]

theorem mem_root_append {path : String} {names : List String} {c : Char}
    (hc : c ∈ (root path ++ joinParts names).toList) :
    c = '/' ∨ ∃ part ∈ names, c ∈ part.toList := by
  rw [String.toList_append, List.mem_append] at hc
  rcases hc with hc | hc
  · left
    rcases root_cases path with hroot | hroot | hroot
    all_goals
      rw [hroot] at hc
      simp_all
  · exact mem_joinParts hc

/-- A part below a path is written behind the parts of the path. -/
theorem join_of_isPart (path : String) {part : String} (h : IsPart part) :
    join path part = root path ++ joinParts (parts path ++ [part]) := by
  have hjoined : joinParts [part] = part := String.intercalate_singleton
  have hsingle : ∀ other ∈ [part], IsPart other := List.forall_mem_singleton.2 h
  have hroot : root part = "" := by
    have hhead := head?_joinParts hsingle
    rw [hjoined] at hhead
    have hroot := root_append "" hhead
    rwa [show root "" = "" by decide, String.empty_append] at hroot
  have hparts : parts part = [part] := by
    simpa only [hjoined] using parts_joinParts hsingle
  have hne : root path ++ joinParts (parts path ++ [part]) ≠ "" := by
    intro hempty
    have hall : ∀ other ∈ parts path ++ [part], IsPart other :=
      List.forall_mem_append.2 ⟨fun _ => isPart_of_mem_parts, hsingle⟩
    have hwritten := parts_root_append path hall
    rw [hempty] at hwritten
    exact List.append_ne_nil_of_right_ne_nil _ (List.cons_ne_nil _ _) hwritten.symm
  rw [join, if_pos hroot, hparts]
  exact if_neg hne

end Path

namespace Location

/-- A location of names, from the top down to a file or directory. -/
def Proper (l : Location) : Prop := ∀ part ∈ l, IsName part

instance (l : Location) : Decidable l.Proper := inferInstanceAs (Decidable (∀ part ∈ l, _))

theorem Proper.isPart {l : Location} (h : l.Proper) : ∀ part ∈ l, IsPart part :=
  fun part hpart => (h part hpart).1

theorem Proper.of_append {l rest : Location} (h : Proper (l ++ rest)) : l.Proper ∧ Proper rest :=
  List.forall_mem_append.1 h

theorem Proper.enter {l : Location} (h : l.Proper) {part : String} (hpart : IsPart part)
    (hnull : '\x00' ∉ part.toList) : (l.enter part).Proper := by
  unfold Location.enter
  split
  · exact fun other hother => h other (List.mem_of_mem_dropLast hother)
  · rename_i hup
    exact List.forall_mem_append.2 ⟨h, List.forall_mem_singleton.2 ⟨hpart, hup, hnull⟩⟩

theorem enter_of_isName (l : Location) {name : String} (h : IsName name) :
    l.enter name = l ++ [name] :=
  if_neg h.2.1

/-- Names lead down from a location one after the other. -/
theorem foldl_enter_of_proper (l : Location) {rest : List String} (h : Proper rest) :
    rest.foldl enter l = l ++ rest := by
  induction rest generalizing l with
  | nil => rw [List.foldl_nil, List.append_nil]
  | cons name rest ih =>
      obtain ⟨hname, hrest⟩ := List.forall_mem_cons.1 h
      rw [List.foldl_cons, enter_of_isName l hname, ih _ hrest, List.append_assoc,
        List.singleton_append]

theorem Proper.foldl_enter {l : Location} (h : l.Proper) {parts : List String}
    (hparts : ∀ part ∈ parts, IsPart part ∧ '\x00' ∉ part.toList) :
    Proper (parts.foldl Location.enter l) := by
  induction parts generalizing l with
  | nil => exact h
  | cons part parts ih =>
      obtain ⟨hpart, hparts⟩ := List.forall_mem_cons.1 hparts
      exact ih (h.enter hpart.1 hpart.2) hparts

/-- What a path text denotes, seen from a proper location, is a proper location. -/
theorem Proper.resolve {current l : Location} (h : current.Proper) {path : String}
    (hpath : Location.resolve current path = .ok l) : l.Proper := by
  unfold Location.resolve at hpath
  split at hpath
  · cases hpath
  · rename_i hnull
    obtain rfl := Except.ok.inj hpath
    have hstart : Proper (if Path.root path = "" then current else []) := by
      split
      · exact h
      · exact List.forall_mem_nil _
    exact hstart.foldl_enter (Path.parts_without_null hnull)

/-- Joined parts behind a root lead down from where the root starts. -/
theorem resolve_root_append (current : Location) (path : String) {parts : List String}
    (hparts : ∀ part ∈ parts, IsPart part ∧ '\x00' ∉ part.toList) :
    Location.resolve current (Path.root path ++ Path.joinParts parts) =
      .ok (parts.foldl enter (if Path.root path = "" then current else [])) := by
  have hplain : ∀ part ∈ parts, IsPart part := fun part hpart => (hparts part hpart).1
  have hnull : ¬ (Path.root path ++ Path.joinParts parts).toList.contains '\x00' = true := by
    rw [List.contains_iff_mem]
    intro hc
    rcases Path.mem_root_append hc with hslash | ⟨part, hpart, hc⟩
    · exact absurd hslash (by decide)
    · exact (hparts part hpart).2 hc
  rw [Location.resolve, if_neg hnull, ofPath, Path.parts_root_append path hplain,
    Path.root_append path (Path.head?_joinParts hplain)]

/-- The path text of a location denotes the location, wherever one stands. -/
theorem Proper.resolve_text {l : Location} (h : l.Proper) (current : Location) :
    Location.resolve current l.text = .ok l := by
  have hparts : ∀ part ∈ l, IsPart part ∧ '\x00' ∉ part.toList :=
    fun part hpart => ⟨(h part hpart).1, (h part hpart).2.2⟩
  have hresolve := resolve_root_append current "/" hparts
  rwa [show (if Path.root "/" = "" then current else []) = [] from rfl,
    foldl_enter_of_proper [] h, List.nil_append] at hresolve

/-- A name below the path text of a location leads to the name below the location. -/
theorem resolve_join {current base : Location} {path name : String}
    (hpath : Location.resolve current path = .ok base) (hname : IsName name) :
    Location.resolve current (Path.join path name) = .ok (base ++ [name]) := by
  unfold Location.resolve at hpath
  split at hpath
  · cases hpath
  · rename_i hnull
    obtain rfl := Except.ok.inj hpath
    have hparts : ∀ part ∈ Path.parts path ++ [name], IsPart part ∧ '\x00' ∉ part.toList :=
      List.forall_mem_append.2
        ⟨Path.parts_without_null hnull, List.forall_mem_singleton.2 ⟨hname.1, hname.2.2⟩⟩
    rw [Path.join_of_isPart path hname.1, resolve_root_append current path hparts,
      List.foldl_append, ← ofPath, List.foldl_cons, List.foldl_nil, enter_of_isName _ hname]

end Location

end Project

end CallAtlas
