import CallAtlas.Project.Selection
import Mathlib.Data.List.TakeWhile
import Mathlib.Data.String.Basic

/-!
# Written forms of selections

A selection is written as its kind, followed by a colon and an argument if the kind has one.  Blanks
around the whole and around the argument do not count, and the argument may hold further colons.
What is accepted is exactly what has this form, and the written form of whatever has been read is
read as the same selection again.
-/

namespace CallAtlas

namespace Text

/-- A text that starts and ends with no blank. -/
structure IsTrimmed (t : List Char) : Prop where
  head : ∀ c ∈ t.head?, isBlank c = false
  last : ∀ c ∈ t.getLast?, isBlank c = false

/-- A text is another one with blanks around it, and the other one has none at its ends. -/
structure Trims (s t : List Char) : Prop where
  around : ∃ before after, s = before ++ (t ++ after) ∧ ∀ c ∈ before ++ after, isBlank c = true
  trimmed : IsTrimmed t

theorem trimStart_of_blanks {before t : List Char} (hbefore : ∀ c ∈ before, isBlank c = true)
    (ht : ∀ c ∈ t.head?, isBlank c = false) : trimStart (before ++ t) = t := by
  rw [trimStart, List.dropWhile_append_of_pos hbefore]
  cases t with
  | nil => rfl
  | cons c t => exact List.dropWhile_cons_of_neg (by simp [ht c rfl])

theorem exists_blanks_of_trimStart (s : List Char) :
    ∃ before, s = before ++ trimStart s ∧ ∀ c ∈ before, isBlank c = true :=
  ⟨s.takeWhile isBlank, List.takeWhile_append_dropWhile.symm, fun _ => List.mem_takeWhile_imp⟩

theorem head_trimStart (s : List Char) : ∀ c ∈ (trimStart s).head?, isBlank c = false := by
  intro c hc
  have hnot := List.head?_dropWhile_not isBlank s
  rw [show (s.dropWhile isBlank).head? = some c from hc] at hnot
  simpa using hnot

/-- What is trimmed at its end is the reverse of a text that is trimmed at its start. -/
theorem trimEnd_eq (s : List Char) : trimEnd s = (trimStart s.reverse).reverse := rfl

theorem trimEnd_of_blanks {t after : List Char} (hafter : ∀ c ∈ after, isBlank c = true)
    (ht : ∀ c ∈ t.getLast?, isBlank c = false) : trimEnd (t ++ after) = t := by
  rw [trimEnd_eq, List.reverse_append, trimStart_of_blanks (by simpa using hafter),
    List.reverse_reverse]
  simpa using ht

/-- Trimming takes all blanks away at both ends of a text and nothing else. -/
theorem trims_trimChars (s : List Char) : Trims s (trimChars s) := by
  obtain ⟨before, hs, hbefore⟩ := exists_blanks_of_trimStart s
  obtain ⟨behind, hbehind, hafter⟩ := exists_blanks_of_trimStart (trimStart s).reverse
  have hsplit : trimStart s = trimChars s ++ behind.reverse := by
    rw [trimChars, trimEnd_eq, ← List.reverse_append, ← hbehind, List.reverse_reverse]
  refine ⟨⟨before, behind.reverse, ?_, ?_⟩, ?_, ?_⟩
  · rw [← hsplit, ← hs]
  · intro c hc
    rcases List.mem_append.1 hc with hc | hc
    · exact hbefore c hc
    · exact hafter c (List.mem_reverse.1 hc)
  · intro c hc
    refine head_trimStart s c ?_
    rw [hsplit, List.head?_append, hc]
    rfl
  · intro c hc
    refine head_trimStart (trimStart s).reverse c ?_
    rwa [trimChars, trimEnd_eq, List.getLast?_reverse] at hc

theorem Trims.trimChars_eq {s t : List Char} (h : Trims s t) : trimChars s = t := by
  obtain ⟨⟨before, after, rfl, hblanks⟩, hhead, hlast⟩ := h
  obtain ⟨hbefore, hafter⟩ := List.forall_mem_append.1 hblanks
  cases t with
  | nil =>
      have hnone : trimStart (before ++ after ++ []) = [] := trimStart_of_blanks hblanks (by simp)
      rw [List.append_nil] at hnone
      rw [trimChars, List.nil_append, hnone]
      rfl
  | cons c t =>
      have hstart : trimStart (before ++ (c :: t ++ after)) = c :: t ++ after :=
        trimStart_of_blanks hbefore hhead
      rw [trimChars, hstart, trimEnd_of_blanks hafter hlast]

theorem exists_trims (s : String) : ∃ t : String, Trims s.toList t.toList :=
  ⟨String.ofList (trimChars s.toList), String.toList_ofList ▸ trims_trimChars s.toList⟩

theorem IsTrimmed.self {t : List Char} (h : IsTrimmed t) : Trims t t :=
  ⟨⟨[], [], by simp, by simp⟩, h⟩

/-- A text that starts with no blank may stand before a trimmed one. -/
theorem IsTrimmed.append {start t : List Char} (hstart : IsTrimmed start) (hne : start ≠ [])
    (ht : IsTrimmed t) : IsTrimmed (start ++ t) := by
  refine ⟨?_, ?_⟩
  · intro c hc
    rw [List.head?_append_of_ne_nil _ hne] at hc
    exact hstart.head c hc
  · intro c hc
    by_cases hnil : t = []
    · rw [hnil, List.append_nil] at hc
      exact hstart.last c hc
    · rw [List.getLast?_append_of_ne_nil _ hnil] at hc
      exact ht.last c hc

end Text

namespace Project

theorem ScopeKind.ofText?_eq_some_iff {s : String} {k : ScopeKind} :
    ofText? s = some k ↔ s = k.text := by
  constructor
  · intro h
    have htext := List.find?_some h
    exact (of_decide_eq_true htext).symm
  · rintro rfl
    cases k <;> decide

namespace Selection

theorem splitColon_of_notMem {s : List Char} (h : ':' ∉ s) : splitColon s = (s, none) := by
  have hnone : s.dropWhile (· != ':') = [] := by
    rw [List.dropWhile_eq_nil_iff]
    intro c hc
    exact bne_iff_ne.2 fun heq => h (heq ▸ hc)
  rw [splitColon, hnone]

theorem splitColon_append {kind : List Char} (h : ':' ∉ kind) (argument : List Char) :
    splitColon (kind ++ ':' :: argument) = (kind, some argument) := by
  have hkind : ∀ c ∈ kind, (c != ':') = true := by
    intro c hc
    exact bne_iff_ne.2 fun heq => h (heq ▸ hc)
  unfold splitColon
  rw [List.dropWhile_append_of_pos hkind, List.takeWhile_append_of_pos hkind,
    List.dropWhile_cons_of_neg (by decide), List.takeWhile_cons_of_neg (by decide), List.append_nil]

/-- A text holds no colon, or it has a first one. -/
theorem exists_colon (s : List Char) :
    ':' ∉ s ∨ ∃ kind argument, s = kind ++ ':' :: argument ∧ ':' ∉ kind := by
  by_cases h : ':' ∈ s
  · exact .inr (List.eq_append_cons_of_mem h)
  · exact .inl h

/-- A value is a word, alone or with a colon and an argument behind it, and the argument without the
blanks around it is a name; without an argument the name is empty. -/
inductive Names (value word : String) : String → Prop where
  | bare (h : Text.Trims value.toList word.toList) : Names value word ""
  | argument (argument name : String)
      (h : Text.Trims value.toList (word ++ ":" ++ argument).toList)
      (hname : Text.Trims argument.toList name.toList) : Names value word name

/-- The selection that a value denotes. -/
inductive Denotes (value : String) : Selection → Prop where
  | withTests (h : Text.Trims value.toList "whole-project-with-tests".toList) :
      Denotes value ⟨.withTests, none, none⟩
  | withoutTests (h : Text.Trims value.toList "whole-project-without-tests".toList) :
      Denotes value ⟨.withoutTests, none, none⟩
  | oneModule (name : String) (h : Names value "module" name) :
      Denotes value ⟨.oneModule, some name, none⟩
  | oneDirectory (name : String) (h : Names value "directory" name) :
      Denotes value ⟨.oneDirectory, none, some name⟩

/-- Why a value denotes no selection: a kind without arguments has one, or there is no such kind. -/
inductive Refused (value : String) : SelectionError → Prop where
  | unexpectedArgument (k : ScopeKind) (hk : k = .withTests ∨ k = .withoutTests) (argument : String)
      (h : Text.Trims value.toList (k.text ++ ":" ++ argument).toList) :
      Refused value (.unexpectedArgument k)
  | unknown (text : String) (h : Text.Trims value.toList text.toList)
      (hkind : ∀ k : ScopeKind, text ≠ k.text ∧ ∀ argument, text ≠ k.text ++ ":" ++ argument) :
      Refused value (.unknown text)

theorem toList_colon (word argument : String) :
    (word ++ ":" ++ argument).toList = word.toList ++ ':' :: argument.toList := by
  simp

theorem colon_notMem_text (k : ScopeKind) : ':' ∉ k.text.toList := by
  cases k <;> decide

/-- What a kind is read as together with the argument behind it, if there is one. -/
def ofKind (k : ScopeKind) (argument : Option (List Char)) : Except SelectionError Selection :=
  let name := String.ofList (Text.trimChars (argument.getD []))
  match k, argument with
  | .oneModule, _ => .ok ⟨.oneModule, some name, none⟩
  | .oneDirectory, _ => .ok ⟨.oneDirectory, none, some name⟩
  | k, some _ => .error (.unexpectedArgument k)
  | k, none => .ok ⟨k, none, none⟩

section

variable {value : String} {argument : Option (List Char)} {k : ScopeKind}

/-- A kind before the first colon is recognised. -/
theorem parse_of_kind
    (h : splitColon (Text.trimChars value.toList) = (k.text.toList, argument)) :
    parse value = ofKind k argument := by
  have hk : ScopeKind.ofText? (String.ofList k.text.toList) = some k := by
    rw [ScopeKind.ofText?_eq_some_iff, String.ofList_toList]
  unfold parse
  dsimp only
  rw [h]
  dsimp only
  rw [hk]
  cases k <;> cases argument <;> rfl

theorem split_of_word (h : Text.Trims value.toList k.text.toList) :
    splitColon (Text.trimChars value.toList) = (k.text.toList, none) := by
  rw [h.trimChars_eq, splitColon_of_notMem (colon_notMem_text k)]

theorem split_of_argument {text : String}
    (h : Text.Trims value.toList (k.text ++ ":" ++ text).toList) :
    splitColon (Text.trimChars value.toList) = (k.text.toList, some text.toList) := by
  rw [h.trimChars_eq, toList_colon, splitColon_append (colon_notMem_text k)]

theorem Names.split {name : String} (h : Names value k.text name) :
    ∃ argument, splitColon (Text.trimChars value.toList) = (k.text.toList, argument) ∧
      String.ofList (Text.trimChars (argument.getD [])) = name := by
  cases h with
  | bare h => exact ⟨none, split_of_word h, rfl⟩
  | argument text name h hname =>
      refine ⟨some text.toList, split_of_argument h, ?_⟩
      rw [Option.getD_some, hname.trimChars_eq, String.ofList_toList]

/-- What denotes a selection is read as that. -/
theorem Denotes.parse_eq {s : Selection} (h : Denotes value s) : parse value = .ok s := by
  cases h with
  | withTests h => exact parse_of_kind (split_of_word (k := .withTests) h)
  | withoutTests h => exact parse_of_kind (split_of_word (k := .withoutTests) h)
  | oneModule name h =>
      obtain ⟨argument, hsplit, rfl⟩ := Names.split (k := .oneModule) h
      exact parse_of_kind hsplit
  | oneDirectory name h =>
      obtain ⟨argument, hsplit, rfl⟩ := Names.split (k := .oneDirectory) h
      exact parse_of_kind hsplit

theorem parse_of_unknown {text : String} (h : Text.Trims value.toList text.toList)
    (hkind : ∀ k : ScopeKind, text ≠ k.text ∧ ∀ argument, text ≠ k.text ++ ":" ++ argument) :
    parse value = .error (.unknown text) := by
  have hnone : ScopeKind.ofText? (String.ofList (splitColon text.toList).1) = none := by
    refine Option.eq_none_iff_forall_ne_some.2 fun k hk => ?_
    rw [ScopeKind.ofText?_eq_some_iff] at hk
    rcases exists_colon text.toList with hcolon | ⟨kind, argument, htext, hcolon⟩
    · rw [splitColon_of_notMem hcolon, String.ofList_toList] at hk
      exact (hkind k).1 hk
    · rw [htext, splitColon_append hcolon] at hk
      refine (hkind k).2 (String.ofList argument) (String.toList_injective ?_)
      rw [htext, toList_colon, ← hk, String.toList_ofList, String.toList_ofList]
  unfold parse
  rw [h.trimChars_eq]
  dsimp only
  rw [hnone, String.ofList_toList]

theorem Refused.parse_eq {e : SelectionError} (h : Refused value e) : parse value = .error e := by
  cases h with
  | unexpectedArgument k hk text h =>
      rw [parse_of_kind (split_of_argument h)]
      rcases hk with rfl | rfl <;> rfl
  | unknown text h hkind => exact parse_of_unknown h hkind

/-- Every value denotes a selection or is refused: without the blanks around it, it is a kind, a
kind with a colon and an argument behind it, or neither of them. -/
theorem denotes_or_refused (value : String) :
    (∃ s, Denotes value s) ∨ ∃ e, Refused value e := by
  obtain ⟨text, htext⟩ := Text.exists_trims value
  by_cases hword : ∃ k : ScopeKind, text = k.text
  · obtain ⟨k, rfl⟩ := hword
    cases k with
    | withTests => exact .inl ⟨_, .withTests htext⟩
    | withoutTests => exact .inl ⟨_, .withoutTests htext⟩
    | oneModule => exact .inl ⟨_, .oneModule "" (.bare htext)⟩
    | oneDirectory => exact .inl ⟨_, .oneDirectory "" (.bare htext)⟩
  · by_cases hargument : ∃ (k : ScopeKind) (argument : String), text = k.text ++ ":" ++ argument
    · obtain ⟨k, argument, rfl⟩ := hargument
      obtain ⟨name, hname⟩ := Text.exists_trims argument
      cases k with
      | withTests => exact .inr ⟨_, .unexpectedArgument .withTests (.inl rfl) argument htext⟩
      | withoutTests => exact .inr ⟨_, .unexpectedArgument .withoutTests (.inr rfl) argument htext⟩
      | oneModule => exact .inl ⟨_, .oneModule name (.argument argument name htext hname)⟩
      | oneDirectory => exact .inl ⟨_, .oneDirectory name (.argument argument name htext hname)⟩
    · refine .inr ⟨_, .unknown text htext fun k => ⟨fun h => hword ⟨k, h⟩, fun argument h => ?_⟩⟩
      exact hargument ⟨k, argument, h⟩

theorem parse_eq_ok_iff {s : Selection} : parse value = .ok s ↔ Denotes value s := by
  refine ⟨fun h => ?_, Denotes.parse_eq⟩
  rcases denotes_or_refused value with ⟨s', hs'⟩ | ⟨e, he⟩
  · rw [hs'.parse_eq] at h
    exact Except.ok.inj h ▸ hs'
  · rw [he.parse_eq] at h
    cases h

theorem Names.trimmed {word name : String} (h : Names value word name) :
    Text.IsTrimmed name.toList := by
  cases h with
  | bare h => exact ⟨by simp, by simp⟩
  | argument text name h hname => exact hname.trimmed

/-- A trimmed name behind a kind and a colon is read as it stands. -/
theorem names_of_trimmed (k : ScopeKind) {name : String} (h : Text.IsTrimmed name.toList) :
    Names (k.text ++ ":" ++ name) k.text name := by
  have hhead : (k.text.toList ++ [':']).head?.any Text.isBlank = false := by cases k <;> decide
  have hkind : Text.IsTrimmed (k.text.toList ++ [':']) := by
    refine ⟨by simpa using hhead, fun c hc => ?_⟩
    rw [List.getLast?_concat] at hc
    obtain rfl := Option.some.inj hc
    decide
  refine .argument name name (Text.IsTrimmed.self ?_) h.self
  rw [toList_colon, List.append_cons]
  exact hkind.append (List.append_ne_nil_of_right_ne_nil _ (List.cons_ne_nil _ _)) h

/-- The written form of a selection that is denoted denotes it too. -/
theorem Denotes.of_text {s : Selection} (h : Denotes value s) : Denotes s.text s := by
  cases h with
  | withTests h => exact .withTests h.trimmed.self
  | withoutTests h => exact .withoutTests h.trimmed.self
  | oneModule name h => exact .oneModule name (names_of_trimmed .oneModule h.trimmed)
  | oneDirectory name h => exact .oneDirectory name (names_of_trimmed .oneDirectory h.trimmed)

end

/-- A value is read as a selection exactly if it denotes the selection, every other value is refused
with the reason why it denotes none, and the written form of a selection that has been read is read
as the same selection. -/
theorem parse_accepts_written_forms (value : String) :
    (∀ s, parse value = .ok s ↔ Denotes value s) ∧
    ((¬ ∃ s, Denotes value s) → ∃ e, parse value = .error e ∧ Refused value e) ∧
    ∀ s, parse value = .ok s → parse s.text = .ok s := by
  refine ⟨fun s => parse_eq_ok_iff, fun hnone => ?_, fun s h => ?_⟩
  · obtain ⟨e, he⟩ := (denotes_or_refused value).resolve_left hnone
    exact ⟨e, he.parse_eq, he⟩
  · exact (parse_eq_ok_iff.1 h).of_text.parse_eq

end Selection

end Project

end CallAtlas
