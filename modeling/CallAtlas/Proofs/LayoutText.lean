import CallAtlas.Layout.Words
import CallAtlas.Proofs.Computation
import CallAtlas.Text.Split
import Mathlib.Data.List.Basic
import Mathlib.Tactic.Common

/-!
# Lines and words

The lines of a text and the words of a line, said by grammars.  A text has exactly the lines that
the one grammar gives it, and the words of a line are exactly those that the other gives it.
-/

namespace CallAtlas

namespace Text

def lineEnds : List Char :=
  ['\n', '\x0b', '\x0c', '\r', '\x1c', '\x1d', '\x1e', '\u0085', '\u2028', '\u2029']

theorem isLineEnd_iff (c : Char) : isLineEnd c = true ↔ c ∈ lineEnds := by
  simp only [isLineEnd, lineEnds, Bool.or_eq_true, Bool.and_eq_true, decide_eq_true_eq, beq_iff_eq,
    List.mem_cons, List.not_mem_nil, or_false, ← Char.toNat_inj, Char.reduceToNat]
  omega

/-- A text and its lines.  A carriage return and a line feed after it are one line end, and a text
that stops with a line end has no further line. -/
inductive Lined : List Char → List (List Char) → Prop where
  | nil : Lined [] []
  | last {line : List Char} (inner : ∀ c ∈ line, c ∉ lineEnds) (some : line ≠ []) :
      Lined line [line]
  | pair {line rest : List Char} {lines : List (List Char)} (inner : ∀ c ∈ line, c ∉ lineEnds)
      (lined : Lined rest lines) : Lined (line ++ '\r' :: '\n' :: rest) (line :: lines)
  | single {line rest : List Char} {c : Char} {lines : List (List Char)}
      (inner : ∀ c ∈ line, c ∉ lineEnds) (ends : c ∈ lineEnds)
      (whole : c = '\r' → rest.head? ≠ some '\n') (lined : Lined rest lines) :
      Lined (line ++ c :: rest) (line :: lines)

theorem lineChars_end {c : Char} {rest : List Char} (ends : c ∈ lineEnds)
    (whole : c = '\r' → rest.head? ≠ some '\n') : lineChars (c :: rest) = [] :: lineChars rest := by
  rw [lineChars.eq_def]
  split
  · rename_i h
    cases h
  · rename_i h
    obtain ⟨rfl, rfl⟩ := List.cons.inj h
    exact absurd rfl (whole rfl)
  · rename_i h
    obtain ⟨rfl, rfl⟩ := List.cons.inj h
    rw [if_pos ((isLineEnd_iff _).2 ends)]

/-- Characters that end no line belong to the first line of what follows them. -/
theorem lineChars_append {line rest first : List Char} {lines : List (List Char)}
    (inner : ∀ c ∈ line, c ∉ lineEnds) (h : lineChars rest = first :: lines) :
    lineChars (line ++ rest) = (line ++ first) :: lines := by
  induction line with
  | nil => exact h
  | cons c line ih =>
      have hline := ih fun d hd => inner d (List.mem_cons_of_mem _ hd)
      have hc : isLineEnd c ≠ true := fun h =>
        inner c List.mem_cons_self ((isLineEnd_iff c).1 h)
      have hreturn : c ≠ '\r' := by
        rintro rfl
        exact hc rfl
      rw [List.cons_append, lineChars.eq_3 _ _ (fun _ h _ => hreturn h), if_neg hc, hline]
      rfl

theorem lineChars_last {line : List Char} (inner : ∀ c ∈ line, c ∉ lineEnds) (hsome : line ≠ []) :
    lineChars line = [line] := by
  obtain ⟨start, c, rfl⟩ := (List.eq_nil_or_concat line).resolve_left hsome
  have hc : isLineEnd c ≠ true := fun h => inner c (by simp) ((isLineEnd_iff c).1 h)
  rw [List.concat_eq_append] at inner ⊢
  apply lineChars_append fun d hd => inner d (List.mem_append_left _ hd)
  rw [lineChars.eq_3 _ _ (fun _ _ h => by cases h), if_neg hc]
  rfl

theorem Lined.lineChars_eq {s : List Char} {lines : List (List Char)} (lined : Lined s lines) :
    lineChars s = lines := by
  induction lined with
  | nil => rfl
  | last inner hsome => exact lineChars_last inner hsome
  | @pair line rest lines inner lined ih =>
      have hfirst : lineChars ('\r' :: '\n' :: rest) = [] :: lines := by rw [lineChars, ih]
      rw [lineChars_append inner hfirst, List.append_nil]
  | @single line rest c lines inner ends whole lined ih =>
      have hfirst : lineChars (c :: rest) = [] :: lines := by rw [lineChars_end ends whole, ih]
      rw [lineChars_append inner hfirst, List.append_nil]

/-- A character before lined text that ends no line joins the first line. -/
theorem Lined.cons {s line : List Char} {lines : List (List Char)} {c : Char}
    (lined : Lined s (line :: lines)) (hc : c ∉ lineEnds) :
    Lined (c :: s) ((c :: line) :: lines) := by
  have inner {line : List Char} (h : ∀ d ∈ line, d ∉ lineEnds) : ∀ d ∈ c :: line, d ∉ lineEnds :=
    List.forall_mem_cons.2 ⟨hc, h⟩
  cases lined with
  | last h hsome => exact .last (inner h) (List.cons_ne_nil _ _)
  | pair h lined => exact .pair (inner h) lined
  | single h ends whole lined => exact .single (inner h) ends whole lined

theorem lined_lineChars (s : List Char) : Lined s (lineChars s) := by
  fun_induction lineChars s with
  | case1 => exact .nil
  | case2 rest ih => exact .pair (List.forall_mem_nil _) ih
  | case3 c rest hpair hend ih =>
      refine .single (List.forall_mem_nil _) ((isLineEnd_iff c).1 hend) ?_ ih
      rintro rfl hhead
      obtain ⟨tail, rfl⟩ := List.head?_eq_some_iff.1 hhead
      exact hpair tail rfl rfl
  | case4 c rest hpair hend hrest ih =>
      rw [hrest] at ih
      cases ih
      refine .last (List.forall_mem_singleton.2 fun h => hend ((isLineEnd_iff c).2 h)) ?_
      exact List.cons_ne_nil _ _
  | case5 c rest hpair hend line lines hrest ih =>
      rw [hrest] at ih
      exact ih.cons fun h => hend ((isLineEnd_iff c).2 h)

/-- The lines of a text are those of the grammar. -/
theorem lineChars_eq_iff (s : List Char) (lines : List (List Char)) :
    lineChars s = lines ↔ Lined s lines :=
  ⟨fun h => h ▸ lined_lineChars s, Lined.lineChars_eq⟩

example : lines "a\r\nb\r\x0bc\n" = ["a", "b", "", "c"] := rfl

end Text

/-! ## Words -/

namespace Layout

/-- Text between quotes, and the characters it stands for.  Between double quotes a backslash before
a double quote or a backslash is left out, and every other one stands for itself. -/
inductive Quoted (quote : Char) : List Char → List Char → Prop where
  | nil : Quoted quote [] []
  | plain {c : Char} {s t : List Char} (inner : c ≠ quote) (kept : quote = '"' → c ≠ '\\')
      (rest : Quoted quote s t) : Quoted quote (c :: s) (c :: t)
  | escape {c : Char} {s t : List Char} (double : quote = '"') (special : c = '"' ∨ c = '\\')
      (rest : Quoted quote s t) : Quoted quote ('\\' :: c :: s) (c :: t)
  | backslash {c : Char} {s t : List Char} (double : quote = '"') (usual : ¬ (c = '"' ∨ c = '\\'))
      (rest : Quoted quote s t) : Quoted quote ('\\' :: c :: s) ('\\' :: c :: t)

/-- A piece of a word, and the characters it stands for. -/
inductive Piece : List Char → List Char → Prop where
  | plain {c : Char} (word : separates c = false) (usual : c ∉ ['"', '\'', '\\']) : Piece [c] [c]
  | escape (c : Char) : Piece ['\\', c] [c]
  | quoted {quote : Char} {s t : List Char} (quotes : quote = '"' ∨ quote = '\'')
      (text : Quoted quote s t) : Piece (quote :: (s ++ [quote])) t

inductive Pieces : List Char → List Char → Prop where
  | nil : Pieces [] []
  | cons {s t rest tail : List Char} (first : Piece s t) (others : Pieces rest tail) :
      Pieces (s ++ rest) (t ++ tail)

/-- Whether a word may end before a text. -/
def Boundary (rest : List Char) : Prop :=
  ∀ c ∈ rest.head?, separates c = true

/-- A line and its words. -/
inductive Spelled : List Char → List String → Prop where
  | nil : Spelled [] []
  | blank {c : Char} {rest : List Char} {words : List String} (separator : separates c = true)
      (others : Spelled rest words) : Spelled (c :: rest) words
  | word {s t rest : List Char} {words : List String} (word : Pieces s t) (some : s ≠ [])
      (boundary : Boundary rest) (others : Spelled rest words) :
      Spelled (s ++ rest) (String.ofList t :: words)

theorem wordsFrom_quoted {quote : Char} {s t : List Char} (text : Quoted quote s t)
    (word rest : List Char) :
    wordsFrom (.quoted quote) word (s ++ quote :: rest) =
      wordsFrom .inside (t.reverse ++ word) rest := by
  induction text generalizing word with
  | nil => simp [wordsFrom]
  | @plain c s t inner kept text ih =>
      have hescape : ¬ ((c == '\\' && quote == '"') = true) := by
        simpa [and_comm, imp_not_comm] using kept
      rw [List.cons_append, wordsFrom, if_neg (by simpa using inner), if_neg hescape, ih]
      simp
  | @escape c s t double special text ih =>
      subst double
      simp [wordsFrom, special, ih]
  | @backslash c s t double usual text ih =>
      subst double
      simp [wordsFrom, usual, ih]

theorem wordsFrom_piece {s t : List Char} (piece : Piece s t) (word rest : List Char) :
    wordsFrom .inside word (s ++ rest) = wordsFrom .inside (t.reverse ++ word) rest := by
  cases piece with
  | plain hword usual =>
      simp only [List.mem_cons, List.not_mem_nil, or_false, not_or] at usual
      simp [wordsFrom, hword, enter, usual]
  | escape c => rfl
  | @quoted quote s t quotes text =>
      have hseparates : separates quote = false := by
        rcases quotes with rfl | rfl <;> rfl
      have henter : enter quote = (.quoted quote, []) := by
        rcases quotes with rfl | rfl <;> rfl
      rw [List.cons_append, wordsFrom, hseparates, henter, List.append_assoc]
      exact wordsFrom_quoted text word rest

theorem wordsFrom_pieces {s t : List Char} (pieces : Pieces s t) (word rest : List Char) :
    wordsFrom .inside word (s ++ rest) = wordsFrom .inside (t.reverse ++ word) rest := by
  induction pieces generalizing word with
  | nil => rfl
  | cons first others ih =>
      rw [List.append_assoc, wordsFrom_piece first, ih, List.reverse_append, List.append_assoc]

/-- Before a word it does not matter that none has begun. -/
theorem wordsFrom_between {c : Char} (hc : separates c = false) (rest : List Char) :
    wordsFrom .between [] (c :: rest) = wordsFrom .inside [] (c :: rest) := by
  simp [wordsFrom, hc]

theorem wordsFrom_boundary {rest : List Char} {words : List String} (boundary : Boundary rest)
    (h : wordsFrom .between [] rest = .ok words) (word : List Char) :
    wordsFrom .inside word rest = .ok (String.ofList word.reverse :: words) := by
  cases rest with
  | nil =>
      obtain rfl := Except.ok.inj h
      rfl
  | cons c rest =>
      have hc : separates c = true := boundary c rfl
      rw [wordsFrom, if_pos hc] at h
      rw [wordsFrom, if_pos hc, h]
      rfl

theorem Piece.head {s t : List Char} (piece : Piece s t) :
    ∃ c tail, s = c :: tail ∧ separates c = false := by
  cases piece with
  | plain hword usual => exact ⟨_, _, rfl, hword⟩
  | escape c => exact ⟨_, _, rfl, rfl⟩
  | quoted quotes text => exact ⟨_, _, rfl, by rcases quotes with rfl | rfl <;> rfl⟩

theorem Pieces.head {s t : List Char} (pieces : Pieces s t) (hsome : s ≠ []) :
    ∃ c tail, s = c :: tail ∧ separates c = false := by
  cases pieces with
  | nil => exact absurd rfl hsome
  | cons first others =>
      obtain ⟨c, tail, rfl, hc⟩ := first.head
      exact ⟨c, _, rfl, hc⟩

theorem Spelled.wordsFrom_eq {s : List Char} {words : List String} (spelled : Spelled s words) :
    wordsFrom .between [] s = .ok words := by
  induction spelled with
  | nil => rfl
  | blank separator others ih => rw [wordsFrom, if_pos separator, ih]
  | @word s t rest words word hsome boundary others ih =>
      obtain ⟨c, tail, hs, hc⟩ := word.head hsome
      have hbetween : wordsFrom .between [] (s ++ rest) = wordsFrom .inside [] (s ++ rest) := by
        rw [hs]
        exact wordsFrom_between hc _
      rw [hbetween, wordsFrom_pieces word, wordsFrom_boundary boundary ih]
      simp

/-- Text that goes on with a word that stands for the given characters so far, last one first. -/
inductive Completed (word : List Char) : List Char → List String → Prop where
  | intro {s t rest : List Char} {words : List String} (pieces : Pieces s t)
      (boundary : Boundary rest) (others : Spelled rest words) :
      Completed word (s ++ rest) (String.ofList (word.reverse ++ t) :: words)

/-- What is left of a text that has words, by the place where its reader stands. -/
def Remains : Place → List Char → List Char → List String → Prop
  | .between, _, text, words => Spelled text words
  | .inside, word, text, words => Completed word text words
  | .quoted quote, word, text, words => ∃ s t rest, text = s ++ quote :: rest ∧ Quoted quote s t ∧
      Completed (t.reverse ++ word) rest words
  | .escaped, word, text, words => ∃ c rest, text = c :: rest ∧ Completed (c :: word) rest words
  | .escapedQuoted, word, text, words => ∃ s t rest, text = s ++ '"' :: rest ∧
      Quoted '"' ('\\' :: s) t ∧ Completed (t.reverse ++ word) rest words

theorem Completed.piece {s t word rest : List Char} {words : List String} (piece : Piece s t)
    (completed : Completed (t.reverse ++ word) rest words) :
    Completed word (s ++ rest) words := by
  cases completed with
  | @intro s' t' rest words pieces boundary others =>
      have h : Completed word ((s ++ s') ++ rest)
          (String.ofList (word.reverse ++ (t ++ t')) :: words) :=
        .intro (.cons piece pieces) boundary others
      rw [List.append_assoc] at h
      simpa using h

theorem completed_of_boundary {text : List Char} {words : List String} (boundary : Boundary text)
    (others : Spelled text words) (word : List Char) :
    Completed word text (String.ofList word.reverse :: words) := by
  have h : Completed word ([] ++ text) (String.ofList (word.reverse ++ []) :: words) :=
    .intro .nil boundary others
  rw [List.append_nil] at h
  exact h

/-- The place after a character that begins or continues a word. -/
theorem completed_of_enter {c : Char} {word rest : List Char} {words : List String}
    (hc : separates c = false) (remains : Remains (enter c).1 ((enter c).2 ++ word) rest words) :
    Completed word (c :: rest) words := by
  unfold enter at remains
  split at remains
  · rename_i hquote
    obtain ⟨s, t, rest, rfl, text, completed⟩ := remains
    have hquotes : c = '"' ∨ c = '\'' := by simpa using hquote
    have h := Completed.piece (.quoted hquotes text) completed
    simpa using h
  · split at remains
    · rename_i hescape
      obtain rfl : c = '\\' := by simpa using hescape
      obtain ⟨d, rest, rfl, completed⟩ := remains
      exact Completed.piece (.escape d) completed
    · rename_i hquote hescape
      refine Completed.piece (.plain hc ?_) remains
      simpa [not_or, and_assoc] using And.intro hquote hescape

theorem spelled_of_completed {c : Char} {rest : List Char} {words : List String}
    (hc : separates c = false) (completed : Completed [] (c :: rest) words) :
    Spelled (c :: rest) words := by
  generalize htext : c :: rest = text at completed
  cases completed with
  | @intro s t rest' words pieces boundary others =>
      refine .word pieces ?_ boundary others
      rintro rfl
      rw [List.nil_append] at htext
      subst htext
      rw [boundary c rfl] at hc
      cases hc

theorem remains_of_wordsFrom {place : Place} {word text : List Char} {words : List String}
    (h : wordsFrom place word text = .ok words) : Remains place word text words := by
  -- on the text: every step takes one character, whatever the place
  induction text generalizing place word words with
  | nil =>
      cases place with
      | between =>
          obtain rfl := Except.ok.inj h
          exact .nil
      | inside =>
          obtain rfl := Except.ok.inj h
          exact completed_of_boundary (fun _ hhead => by cases hhead) .nil word
      | quoted quote => cases h
      | escaped => cases h
      | escapedQuoted => cases h
  | cons c rest ih =>
      cases place with
      | between =>
          rw [wordsFrom] at h
          split at h
          · rename_i hc
            exact .blank hc (ih h)
          · rename_i hc
            have hc : separates c = false := by simpa using hc
            exact spelled_of_completed hc (completed_of_enter hc (by simpa using ih h))
      | inside =>
          rw [wordsFrom] at h
          split at h
          · rename_i hc
            obtain ⟨others, hothers, hwords⟩ := bind_ok h
            obtain rfl := Except.ok.inj hwords
            apply completed_of_boundary
            · exact fun _ hhead => Option.some.inj hhead ▸ hc
            · exact .blank hc (ih hothers)
          · rename_i hc
            exact completed_of_enter (by simpa using hc) (ih h)
      | quoted quote =>
          rw [wordsFrom] at h
          split at h
          · rename_i hquote
            obtain rfl : c = quote := by simpa using hquote
            exact ⟨[], [], rest, rfl, .nil, ih h⟩
          · rename_i hquote
            split at h
            · rename_i hescape
              obtain ⟨rfl, rfl⟩ : c = '\\' ∧ quote = '"' := by simpa using hescape
              obtain ⟨s, t, rest, rfl, text, completed⟩ := ih h
              exact ⟨'\\' :: s, t, rest, rfl, text, completed⟩
            · rename_i hescape
              obtain ⟨s, t, rest, rfl, text, completed⟩ := ih h
              refine ⟨c :: s, c :: t, rest, rfl, .plain ?_ ?_ text, ?_⟩
              · simpa using hquote
              · rintro rfl rfl
                exact hescape rfl
              · simpa using completed
      | escaped => exact ⟨c, rest, rfl, ih h⟩
      | escapedQuoted =>
          rw [wordsFrom] at h
          split at h
          · rename_i hspecial
            obtain ⟨s, t, rest, rfl, text, completed⟩ := ih h
            refine ⟨c :: s, c :: t, rest, rfl, .escape rfl ?_ text, ?_⟩
            · simpa using hspecial
            · simpa using completed
          · rename_i hspecial
            obtain ⟨s, t, rest, rfl, text, completed⟩ := ih h
            refine ⟨c :: s, '\\' :: c :: t, rest, rfl, .backslash rfl ?_ text, ?_⟩
            · simpa using hspecial
            · simpa using completed

/-- The words of a line are those of the grammar; a line that the grammar does not spell has none. -/
theorem words_eq_ok_iff (line : String) (ws : List String) :
    words line = .ok ws ↔ Spelled line.toList ws :=
  ⟨remains_of_wordsFrom, Spelled.wordsFrom_eq⟩

example : words "node \"a \\\"b\\\" \\c\" 'd'\\ e ''" = .ok ["node", "a \"b\" \\c", "d e", ""] := rfl

end Layout

end CallAtlas
