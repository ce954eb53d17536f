import CallAtlas.Layout.Plain
import CallAtlas.Proofs.LayoutText
import CallAtlas.Proofs.Numerals
import Mathlib.Data.List.Forall2
import Mathlib.Data.List.Induction

/-!
# Reading plain layouts

Which texts are plain layouts, what is read from them, and which line an error names.
-/

namespace CallAtlas.Layout

/-- What the words of a line say. -/
inductive Means : List String → Line → Prop where
  | graph {scale width height : String} {rest : List String} {size : Pair}
      (wide : Decimal.Denotes width.toList size.x) (high : Decimal.Denotes height.toList size.y)
      (positive : ¬ size.x ≤ 0.0 ∧ ¬ size.y ≤ 0.0) :
      Means ("graph" :: scale :: width :: height :: rest) (.graph size)
  | node {id x y : String} {rest : List String} {place : Pair}
      (across : Decimal.Denotes x.toList place.x) (along : Decimal.Denotes y.toList place.y) :
      Means ("node" :: id :: x :: y :: rest) (.node id place)
  | other {words : List String} (noGraph : words.head? ≠ some "graph")
      (noNode : words.head? ≠ some "node") : Means words .other

def Describes (line : String) (l : Line) : Prop :=
  ∃ words, Spelled line.toList words ∧ Means words l

def Readable (line : String) : Prop := ∃ l, Describes line l

theorem readPair_eq_ok_iff (number : Nat) (line x y : String) (pair : Pair) :
    readPair number line x y = .ok pair ↔
      Decimal.Denotes x.toList pair.x ∧ Decimal.Denotes y.toList pair.y := by
  rw [← Decimal.readNumber_eq_some_iff, ← Decimal.readNumber_eq_some_iff, readPair]
  cases Decimal.readNumber x with
  | none => simp
  | some a =>
      cases Decimal.readNumber y with
      | none => simp
      | some b =>
          constructor
          · intro h
            obtain rfl := Except.ok.inj h
            exact ⟨rfl, rfl⟩
          · rintro ⟨ha, hb⟩
            obtain rfl := Option.some.inj ha
            obtain rfl := Option.some.inj hb
            rfl

theorem notPositive_or_iff (size : Pair) :
    ¬ (notPositive size.x || notPositive size.y) = true ↔ ¬ size.x ≤ 0.0 ∧ ¬ size.y ≤ 0.0 := by
  simp [notPositive]

theorem means_of_ofWords {number : Nat} {line : String} {words : List String} {l : Line}
    (h : Line.ofWords number line words = .ok l) : Means words l := by
  revert h
  fun_cases Line.ofWords number line words with
  | case1 scale width height rest e hpair => exact fun h => by cases h
  | case2 scale width height rest size hpair hpositive => exact fun h => by cases h
  | case3 scale width height rest size hpair hpositive =>
      intro h
      obtain rfl := Except.ok.inj h
      obtain ⟨wide, high⟩ := (readPair_eq_ok_iff _ _ _ _ _).1 hpair
      exact .graph wide high ((notPositive_or_iff size).1 hpositive)
  | case4 rest hshort => exact fun h => by cases h
  | case5 id x y rest e hpair => exact fun h => by cases h
  | case6 id x y rest place hpair =>
      intro h
      obtain rfl := Except.ok.inj h
      obtain ⟨across, along⟩ := (readPair_eq_ok_iff _ _ _ _ _).1 hpair
      exact .node across along
  | case7 rest hshort => exact fun h => by cases h
  | case8 words hgraph hnode =>
      intro h
      obtain rfl := Except.ok.inj h
      refine .other (fun hhead => ?_) (fun hhead => ?_)
      · obtain ⟨rest, rfl⟩ := List.head?_eq_some_iff.1 hhead
        exact hgraph rest rfl
      · obtain ⟨rest, rfl⟩ := List.head?_eq_some_iff.1 hhead
        exact hnode rest rfl

theorem Means.ofWords_eq {words : List String} {l : Line} (hmeans : Means words l) (number : Nat)
    (line : String) : Line.ofWords number line words = .ok l := by
  cases hmeans with
  | @graph scale width height rest size wide high positive =>
      have hpair := (readPair_eq_ok_iff number line width height size).2 ⟨wide, high⟩
      simp only [Line.ofWords, hpair]
      rw [if_neg ((notPositive_or_iff size).2 positive)]
  | @node id x y rest place across along =>
      have hpair := (readPair_eq_ok_iff number line x y place).2 ⟨across, along⟩
      simp only [Line.ofWords, hpair]
  | @other words hgraph hnode =>
      apply Line.ofWords.eq_5
      · rintro rest rfl
        exact hgraph rfl
      · rintro rest rfl
        exact hnode rfl

theorem read_eq_ok_iff (number : Nat) (line : String) (l : Line) :
    Line.read number line = .ok l ↔ Describes line l := by
  constructor
  · intro h
    rw [Line.read] at h
    split at h
    · cases h
    · rename_i words hwords
      exact ⟨words, (words_eq_ok_iff _ _).1 hwords, means_of_ofWords h⟩
  · rintro ⟨words, spelled, hmeans⟩
    rw [Line.read, (words_eq_ok_iff _ _).2 spelled]
    exact hmeans.ofWords_eq number line

/-! ## Which line an error names -/

/-- The number of the line that a text cannot be read for. -/
def Malformed.number? : Malformed → Option Nat
  | .words number _ _ => some number
  | .shortGraphLine number _ => some number
  | .shortNodeLine number _ => some number
  | .notANumber number _ _ => some number
  | .sizeNotPositive number _ _ => some number
  | .noGraphLine => none

theorem Malformed.message_of_number {e : Malformed} {number : Nat} (h : e.number? = some number) :
    ∃ what, e.message = "Line " ++ toString number ++ ": " ++ what := by
  cases e with
  | noGraphLine => cases h
  | words | shortGraphLine | shortNodeLine | notANumber | sizeNotPositive =>
      obtain rfl := Option.some.inj h
      exact ⟨_, rfl⟩

theorem readPair_error {number : Nat} {line x y : String} {e : Malformed}
    (h : readPair number line x y = .error e) : e.number? = some number := by
  revert h
  fun_cases readPair number line x y with
  | case1 hx =>
      intro h
      obtain rfl := Except.error.inj h
      rfl
  | case2 a hx hy =>
      intro h
      obtain rfl := Except.error.inj h
      rfl
  | case3 a hx b hy => exact fun h => by cases h

theorem ofWords_error {number : Nat} {line : String} {words : List String} {e : Malformed}
    (h : Line.ofWords number line words = .error e) : e.number? = some number := by
  revert h
  fun_cases Line.ofWords number line words with
  | case1 scale width height rest e' hpair =>
      intro h
      obtain rfl := Except.error.inj h
      exact readPair_error hpair
  | case2 scale width height rest size hpair hpositive =>
      intro h
      obtain rfl := Except.error.inj h
      rfl
  | case3 scale width height rest size hpair hpositive => exact fun h => by cases h
  | case4 rest hshort =>
      intro h
      obtain rfl := Except.error.inj h
      rfl
  | case5 id x y rest e hpair =>
      intro h
      obtain rfl := Except.error.inj h
      exact readPair_error hpair
  | case6 id x y rest place hpair => exact fun h => by cases h
  | case7 rest hshort =>
      intro h
      obtain rfl := Except.error.inj h
      rfl
  | case8 words hgraph hnode => exact fun h => by cases h

theorem read_error {number : Nat} {line : String} {e : Malformed}
    (h : Line.read number line = .error e) : e.number? = some number := by
  rw [Line.read] at h
  split at h
  · obtain rfl := Except.error.inj h
    rfl
  · exact ofWords_error h

theorem readable_iff (number : Nat) (line : String) :
    Readable line ↔ ∃ l, Line.read number line = .ok l :=
  exists_congr fun l => (read_eq_ok_iff number line l).symm

theorem not_readable_of_read {number : Nat} {line : String} {e : Malformed}
    (h : Line.read number line = .error e) : ¬ Readable line := by
  intro readable
  obtain ⟨l, hl⟩ := (readable_iff number line).1 readable
  rw [h] at hl
  cases hl

theorem readLines_eq_ok_iff (number : Nat) (lines : List String) (said : List Line) :
    readLines number lines = .ok said ↔ List.Forall₂ Describes lines said := by
  induction lines generalizing number said with
  | nil =>
      rw [List.forall₂_nil_left_iff, readLines]
      exact ⟨fun h => (Except.ok.inj h).symm, fun h => congrArg Except.ok h.symm⟩
  | cons line rest ih =>
      constructor
      · intro h
        rw [readLines] at h
        split at h
        · cases h
        · rename_i l hread
          split at h
          · cases h
          · rename_i others hothers
            obtain rfl := Except.ok.inj h
            exact .cons ((read_eq_ok_iff _ _ _).1 hread) ((ih _ _).1 hothers)
      · intro h
        obtain ⟨l, others, hl, hothers, rfl⟩ := List.forall₂_cons_left_iff.1 h
        rw [readLines, (read_eq_ok_iff number line l).2 hl]
        dsimp only
        rw [(ih (number + 1) others).2 hothers]

/-- Lines that cannot all be read are at fault with the first one that is not readable. -/
theorem readLines_error {number : Nat} {lines : List String} {e : Malformed}
    (h : readLines number lines = .error e) :
    ∃ before line after, lines = before ++ line :: after ∧ (∀ l ∈ before, Readable l) ∧
      ¬ Readable line ∧ e.number? = some (number + before.length) := by
  induction lines generalizing number with
  | nil => cases h
  | cons line rest ih =>
      rw [readLines] at h
      split at h
      · rename_i e' hread
        obtain rfl := Except.error.inj h
        exact ⟨[], line, rest, rfl, List.forall_mem_nil _, not_readable_of_read hread,
          read_error hread⟩
      · rename_i l hread
        split at h
        · rename_i e' hrest
          obtain rfl := Except.error.inj h
          obtain ⟨before, bad, after, rfl, hbefore, hbad, hnumber⟩ := ih hrest
          refine ⟨line :: before, bad, after, rfl, ?_, hbad, ?_⟩
          · exact List.forall_mem_cons.2 ⟨(readable_iff number line).2 ⟨l, hread⟩, hbefore⟩
          · rw [hnumber, List.length_cons]
            congr 1
            omega
        · cases h

/-! ## Sizes and places -/

def nodeIds (said : List Line) : List String :=
  said.filterMap fun
    | .node id _ => some id
    | _ => none

def FirstSize (said : List Line) (size : Pair) : Prop :=
  ∃ before after, said = before ++ .graph size :: after ∧ ∀ l ∈ before, ∀ s, l ≠ .graph s

/-- The place in the last of the lines for a node. -/
def LastPlace (said : List Line) (id : String) (place : Pair) : Prop :=
  ∃ before after, said = before ++ .node id place :: after ∧ ∀ l ∈ after, ∀ p, l ≠ .node id p

theorem firstSize?_eq_some_iff (said : List Line) (size : Pair) :
    firstSize? said = some size ↔ FirstSize said size := by
  rw [firstSize?, List.findSome?_eq_some_iff]
  constructor
  · rintro ⟨before, l, after, rfl, hl, hbefore⟩
    cases l with
    | graph s =>
        obtain rfl := Option.some.inj hl
        refine ⟨before, after, rfl, ?_⟩
        rintro _ hl s rfl
        exact absurd (hbefore _ hl) (Option.some_ne_none s)
    | node id place => cases hl
    | other => cases hl
  · rintro ⟨before, after, rfl, hbefore⟩
    refine ⟨before, _, after, rfl, rfl, fun l hl => ?_⟩
    cases l with
    | graph s => exact absurd rfl (hbefore _ hl s)
    | node id place => rfl
    | other => rfl

theorem firstSize?_eq_none_iff (said : List Line) :
    firstSize? said = none ↔ ∀ size, .graph size ∉ said := by
  rw [firstSize?, List.findSome?_eq_none_iff]
  constructor
  · intro h size hsize
    exact absurd (h _ hsize) (Option.some_ne_none size)
  · intro h l hl
    cases l with
    | graph s => exact absurd hl (h s)
    | node id place => rfl
    | other => rfl

theorem lookup_entry (k : String) (p : Pair) (ps : List (String × Pair)) (key : String) :
    ((k, p) :: ps).lookup key = if key = k then some p else ps.lookup key := by
  rw [List.lookup_cons]
  by_cases h : key = k
  · rw [if_pos h, beq_iff_eq.2 h]
  · rw [if_neg h, beq_eq_false_iff_ne.2 h]

theorem lookup_eq_none_iff_notMem (ps : List (String × Pair)) (id : String) :
    ps.lookup id = none ↔ id ∉ ps.map Prod.fst := by
  rw [List.lookup_eq_none_iff, List.mem_map]
  constructor
  · rintro h ⟨entry, hentry, rfl⟩
    simpa using h entry hentry
  · intro h entry hentry
    rw [bne_iff_ne]
    rintro rfl
    exact h ⟨entry, hentry, rfl⟩

theorem lookup_setPlace (id : String) (place : Pair) (ps : List (String × Pair)) (key : String) :
    (setPlace id place ps).lookup key = if key = id then some place else ps.lookup key := by
  induction ps with
  | nil => exact lookup_entry id place [] key
  | cons entry ps ih =>
      obtain ⟨k, p⟩ := entry
      rw [setPlace]
      split
      · rename_i hk
        subst hk
        rw [lookup_entry, lookup_entry]
        split <;> rfl
      · rename_i hk
        rw [lookup_entry, lookup_entry, ih]
        by_cases h : key = k
        · rw [if_pos h, if_pos h, if_neg fun heq => hk (h.symm.trans heq)]
        · rw [if_neg h, if_neg h]

theorem keys_setPlace_of_mem {id : String} {ps : List (String × Pair)} (place : Pair)
    (h : id ∈ ps.map Prod.fst) : (setPlace id place ps).map Prod.fst = ps.map Prod.fst := by
  induction ps with
  | nil => cases h
  | cons entry ps ih =>
      obtain ⟨k, p⟩ := entry
      rw [setPlace]
      split
      · rfl
      · rename_i hk
        rw [List.map_cons, ih ((List.mem_cons.1 h).resolve_left (Ne.symm hk))]
        rfl

theorem keys_setPlace_of_notMem {id : String} {ps : List (String × Pair)} (place : Pair)
    (h : id ∉ ps.map Prod.fst) :
    (setPlace id place ps).map Prod.fst = ps.map Prod.fst ++ [id] := by
  induction ps with
  | nil => rfl
  | cons entry ps ih =>
      obtain ⟨k, p⟩ := entry
      rw [List.map_cons, List.mem_cons, not_or] at h
      rw [setPlace, if_neg (Ne.symm h.1), List.map_cons, ih h.2]
      rfl

theorem places_append (said : List Line) (l : Line) :
    places (said ++ [l]) = match l with
      | .node id place => setPlace id place (places said)
      | _ => places said := by
  rw [places, List.foldl_append]
  rfl

theorem nodeIds_append (said rest : List Line) :
    nodeIds (said ++ rest) = nodeIds said ++ nodeIds rest :=
  List.filterMap_append

/-- Places are kept in the order in which lines first name their nodes. -/
theorem keys_places (said : List Line) : (places said).map Prod.fst = (nodeIds said).eraseDups := by
  induction said using List.reverseRecOn with
  | nil => rfl
  | append_singleton said l ih =>
      rw [places_append, nodeIds_append, List.eraseDups_append]
      cases l with
      | node id place =>
          have hid : nodeIds [.node id place] = [id] := rfl
          rw [hid]
          by_cases h : id ∈ nodeIds said
          · have hmem : id ∈ (places said).map Prod.fst := by
              rw [ih]
              exact List.mem_eraseDups.2 h
            rw [keys_setPlace_of_mem place hmem, ih]
            simp [List.removeAll, h]
          · have hmem : id ∉ (places said).map Prod.fst := by
              rw [ih]
              exact fun hid => h (List.mem_eraseDups.1 hid)
            rw [keys_setPlace_of_notMem place hmem, ih]
            simp [List.removeAll, h, List.eraseDups_cons]
      | graph size => exact ih.trans (List.append_nil _).symm
      | other => exact ih.trans (List.append_nil _).symm

theorem lastPlace_append_iff (said : List Line) (l : Line) (id : String) (place : Pair) :
    LastPlace (said ++ [l]) id place ↔
      l = .node id place ∨ (∀ p, l ≠ .node id p) ∧ LastPlace said id place := by
  constructor
  · rintro ⟨before, after, hsaid, hafter⟩
    rcases List.eq_nil_or_concat after with rfl | ⟨after, l', rfl⟩
    · exact .inl (List.append_singleton_inj.1 hsaid).2
    · rw [List.concat_eq_append] at hsaid hafter
      rw [← List.cons_append, ← List.append_assoc] at hsaid
      obtain ⟨rfl, rfl⟩ := List.append_singleton_inj.1 hsaid
      obtain ⟨hafter, hlast⟩ := List.forall_mem_append.1 hafter
      exact .inr ⟨List.forall_mem_singleton.1 hlast, before, after, rfl, hafter⟩
  · rintro (rfl | ⟨hlast, before, after, rfl, hafter⟩)
    · exact ⟨said, [], rfl, List.forall_mem_nil _⟩
    · refine ⟨before, after ++ [l], by simp, ?_⟩
      exact List.forall_mem_append.2 ⟨hafter, List.forall_mem_singleton.2 hlast⟩

/-- Places are those of the last lines. -/
theorem lookup_places (said : List Line) (id : String) (place : Pair) :
    (places said).lookup id = some place ↔ LastPlace said id place := by
  induction said using List.reverseRecOn with
  | nil =>
      refine ⟨fun h => (by cases h), ?_⟩
      rintro ⟨before, after, h, -⟩
      simp at h
  | append_singleton said l ih =>
      rw [places_append, lastPlace_append_iff, ← ih]
      cases l with
      | node id' place' =>
          rw [lookup_setPlace]
          by_cases h : id = id'
          · simp [h]
          · simp [h, Ne.symm h]
      | graph size => simp
      | other => simp

/-! ## Whole texts -/

/-- The layout that lines describe. -/
structure LaidOut (said : List Line) (plain : Plain) : Prop where
  size : FirstSize said plain.size
  keys : plain.positions.map Prod.fst = (nodeIds said).eraseDups
  place : ∀ id place, plain.positions.lookup id = some place ↔ LastPlace said id place

/-- How reading a text ends: with the layout that its lines describe, at the first line that is not
readable, or without a graph line. -/
theorem parse_cases (text : String) :
    (∃ plain said, Plain.parse text = .ok plain ∧
      List.Forall₂ Describes (Text.lines text) said ∧ LaidOut said plain) ∨
    (∃ e before line after, Plain.parse text = .error e ∧
      Text.lines text = before ++ line :: after ∧ (∀ l ∈ before, Readable l) ∧ ¬ Readable line ∧
      e.number? = some (before.length + 1)) ∨
    (∃ said, Plain.parse text = .error .noGraphLine ∧
      List.Forall₂ Describes (Text.lines text) said ∧ ∀ size, .graph size ∉ said) := by
  rw [Plain.parse]
  cases hlines : readLines 1 (Text.lines text) with
  | error e =>
      obtain ⟨before, line, after, hsplit, hbefore, hline, hnumber⟩ := readLines_error hlines
      exact .inr (.inl ⟨e, before, line, after, rfl, hsplit, hbefore, hline,
        hnumber.trans (by rw [Nat.add_comm])⟩)
  | ok said =>
      have hsaid := (readLines_eq_ok_iff _ _ _).1 hlines
      dsimp only
      cases hsize : firstSize? said with
      | none => exact .inr (.inr ⟨said, rfl, hsaid, (firstSize?_eq_none_iff said).1 hsize⟩)
      | some size =>
          refine .inl ⟨_, said, rfl, hsaid, ?_, keys_places said, lookup_places said⟩
          exact (firstSize?_eq_some_iff said size).1 hsize

theorem lined_iff (text : String) (lines : List (List Char)) :
    Text.Lined text.toList lines ↔ lines = (Text.lines text).map String.toList := by
  have hlines : (Text.lines text).map String.toList = Text.lineChars text.toList := by
    simp [Text.lines, Function.comp_def]
  rw [← Text.lineChars_eq_iff, hlines, eq_comm]

/-- A line says one thing. -/
theorem Describes.unique {line : String} {l l' : Line} (h : Describes line l)
    (h' : Describes line l') : l = l' :=
  Except.ok.inj (((read_eq_ok_iff 0 line l).2 h).symm.trans ((read_eq_ok_iff 0 line l').2 h'))

theorem readable_of_forall₂ {lines : List String} {said : List Line}
    (h : List.Forall₂ Describes lines said) : ∀ line ∈ lines, Readable line := by
  intro line hline
  obtain ⟨l, -, hl⟩ := exists_right_of_forall₂ h hline
  exact ⟨l, hl⟩

theorem parse_succeeds_iff (text : String) :
    (∃ plain, Plain.parse text = .ok plain) ↔
      (∀ line ∈ Text.lines text, Readable line) ∧
        ∃ line ∈ Text.lines text, ∃ size, Describes line (.graph size) := by
  rcases parse_cases text with ⟨plain, said, hparse, hsaid, hlaid⟩ |
    ⟨e, before, line, after, hparse, hlines, -, hline, -⟩ | ⟨said, hparse, hsaid, hgraph⟩
  · obtain ⟨first, rest, hsize, -⟩ := hlaid.size
    have hmem : .graph plain.size ∈ said := by
      rw [hsize]
      exact List.mem_append_right _ List.mem_cons_self
    obtain ⟨line, hline, hdescribes⟩ := exists_right_of_forall₂ hsaid.flip hmem
    exact ⟨fun _ => ⟨readable_of_forall₂ hsaid, line, hline, _, hdescribes⟩,
      fun _ => ⟨plain, hparse⟩⟩
  · refine ⟨fun ⟨plain, hplain⟩ => (by cases hparse.symm.trans hplain), fun ⟨hall, _⟩ => ?_⟩
    refine absurd (hall line ?_) hline
    rw [hlines]
    exact List.mem_append_right _ List.mem_cons_self
  · refine ⟨fun ⟨plain, hplain⟩ => (by cases hparse.symm.trans hplain), ?_⟩
    rintro ⟨-, line, hline, size, hdescribes⟩
    obtain ⟨l, hl, hdescribes'⟩ := exists_right_of_forall₂ hsaid hline
    rw [← hdescribes.unique hdescribes'] at hl
    exact absurd hl (hgraph size)

theorem parse_ok_laidOut {text : String} {plain : Plain} (h : Plain.parse text = .ok plain) :
    ∃ said, List.Forall₂ Describes (Text.lines text) said ∧ LaidOut said plain := by
  rcases parse_cases text with ⟨_, said, hparse, hsaid, hlaid⟩ | ⟨_, _, _, _, hparse, -⟩ |
    ⟨_, hparse, -⟩
  · obtain rfl := Except.ok.inj (hparse.symm.trans h)
    exact ⟨said, hsaid, hlaid⟩
  · cases hparse.symm.trans h
  · cases hparse.symm.trans h

theorem parse_error_names {text : String} {e : Malformed} (h : Plain.parse text = .error e) :
    (∃ before line after what, Text.lines text = before ++ line :: after ∧
      (∀ l ∈ before, Readable l) ∧ ¬ Readable line ∧
      e.message = "Line " ++ toString (before.length + 1) ++ ": " ++ what) ∨
    (∀ line ∈ Text.lines text, Readable line) ∧ e.message = "Layout output has no graph line" := by
  rcases parse_cases text with ⟨_, _, hparse, -⟩ |
    ⟨_, before, line, after, hparse, hlines, hbefore, hline, hnumber⟩ | ⟨said, hparse, hsaid, -⟩
  · cases hparse.symm.trans h
  · obtain rfl := Except.error.inj (hparse.symm.trans h)
    obtain ⟨what, hwhat⟩ := Malformed.message_of_number hnumber
    exact .inl ⟨before, line, after, what, hlines, hbefore, hline, hwhat⟩
  · obtain rfl := Except.error.inj (hparse.symm.trans h)
    exact .inr ⟨readable_of_forall₂ hsaid, rfl⟩

/-- A text is read exactly if each of its lines is readable and one of them is a graph line.  The
layout has the size in the first graph line and the places in the last lines for their nodes, in the
order in which the nodes are first named.  An error names the first line that is not readable, or
says that no line is a graph line. -/
theorem parse_exactly (text : String) :
    (∀ lines, Text.Lined text.toList lines ↔ lines = (Text.lines text).map String.toList) ∧
    ((∃ plain, Plain.parse text = .ok plain) ↔
      (∀ line ∈ Text.lines text, Readable line) ∧
        ∃ line ∈ Text.lines text, ∃ size, Describes line (.graph size)) ∧
    (∀ plain, Plain.parse text = .ok plain →
      ∃ said, List.Forall₂ Describes (Text.lines text) said ∧ LaidOut said plain) ∧
    ∀ e, Plain.parse text = .error e →
      (∃ before line after what, Text.lines text = before ++ line :: after ∧
        (∀ l ∈ before, Readable l) ∧ ¬ Readable line ∧
        e.message = "Line " ++ toString (before.length + 1) ++ ": " ++ what) ∨
      (∀ line ∈ Text.lines text, Readable line) ∧
        e.message = "Layout output has no graph line" := by
  refine ⟨lined_iff text, parse_succeeds_iff text, ?_, ?_⟩
  · intro plain h
    exact parse_ok_laidOut h
  · intro e h
    exact parse_error_names h

example : (Plain.parse "graph 1 2 3\nnode 'a b' 1 2\nnode c 3 4\nnode 'a b' 5 6\n").toOption.map
    (fun plain => plain.positions.map Prod.fst) = some ["a b", "c"] := by
  decide +kernel

end CallAtlas.Layout
