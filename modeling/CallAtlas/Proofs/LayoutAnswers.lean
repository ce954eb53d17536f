import CallAtlas.Proofs.PlainLayout
import CallAtlas.Proofs.SettingsBounds
import CallAtlas.Proofs.WholeNumbers

/-!
# Answers of layout programs

A layout program answers with a line for the graph, a line for each node and a last line.  What is
read from such an answer is what its lines say, if every word of them stands there as it is, without
quotes, backslashes, blanks or line ends.
-/

namespace CallAtlas.Layout

def quoting : List Char := ['"', '\'', '\\']

/-- A text that is one word as it stands. -/
def IsWord (s : String) : Prop :=
  s ≠ "" ∧ ∀ c ∈ s.toList, separates c = false ∧ c ∉ quoting ∧ c ∉ Text.lineEnds

instance (s : String) : Decidable (IsWord s) :=
  @instDecidableAnd _ _ _ (List.decidableBAll
    (fun c => separates c = false ∧ c ∉ quoting ∧ c ∉ Text.lineEnds) s.toList)

theorem pieces_plain {s : List Char} (plain : ∀ c ∈ s, separates c = false ∧ c ∉ quoting) :
    Pieces s s := by
  induction s with
  | nil => exact .nil
  | cons c s ih =>
      obtain ⟨hc, hs⟩ := List.forall_mem_cons.1 plain
      exact .cons (.plain hc.1 hc.2) (ih hs)

theorem IsWord.spelled {word : String} (isWord : IsWord word) {rest : List Char}
    {words : List String} (boundary : Boundary rest) (others : Spelled rest words) :
    Spelled (word.toList ++ rest) (word :: words) := by
  have hpieces := pieces_plain fun c hc => ⟨(isWord.2 c hc).1, (isWord.2 c hc).2.1⟩
  have hsome : word.toList ≠ [] := by simpa using isWord.1
  simpa using Spelled.word hpieces hsome boundary others

theorem boundary_nil : Boundary [] := fun _ h => by cases h

theorem boundary_blank (rest : List Char) : Boundary (' ' :: rest) := by
  intro c hc
  obtain rfl := Option.some.inj hc
  rfl

/-- A word before a blank. -/
theorem IsWord.spelled_blank {word : String} (isWord : IsWord word) {rest : List Char}
    {words : List String} (others : Spelled rest words) :
    Spelled (word.toList ++ ' ' :: rest) (word :: words) :=
  isWord.spelled (boundary_blank rest) (.blank rfl others)

/-- Without quotes and backslashes, a reader stands between or inside words. -/
theorem wordsFrom_plain {s : List Char} (plain : ∀ c ∈ s, c ∉ quoting) (word : List Char) :
    (∃ words, wordsFrom .between [] s = .ok words) ∧
      ∃ words, wordsFrom .inside word s = .ok words := by
  -- both at once: a character leads from either place to either place
  induction s generalizing word with
  | nil => exact ⟨⟨_, rfl⟩, ⟨_, rfl⟩⟩
  | cons c s ih =>
      obtain ⟨hc, hs⟩ := List.forall_mem_cons.1 plain
      have henter : enter c = (.inside, [c]) := by
        simp only [quoting, List.mem_cons, List.not_mem_nil, or_false, not_or] at hc
        simp [enter, hc]
      rw [wordsFrom, wordsFrom, henter]
      split
      · obtain ⟨words, hwords⟩ := (ih hs []).1
        exact ⟨⟨words, hwords⟩, ⟨_, by rw [hwords]; rfl⟩⟩
      · exact ⟨(ih hs [c]).2, (ih hs (c :: word)).2⟩

theorem exists_spelled {s : List Char} (plain : ∀ c ∈ s, c ∉ quoting) :
    ∃ words, Spelled s words := by
  obtain ⟨words, hwords⟩ := (wordsFrom_plain plain []).1
  exact ⟨words, remains_of_wordsFrom hwords⟩

def IsLine (s : String) : Prop := ∀ c ∈ s.toList, c ∉ Text.lineEnds

instance (s : String) : Decidable (IsLine s) :=
  List.decidableBAll (fun c => c ∉ Text.lineEnds) s.toList

theorem IsLine.append {s t : String} (hs : IsLine s) (ht : IsLine t) : IsLine (s ++ t) := by
  unfold IsLine
  rw [String.toList_append]
  exact List.forall_mem_append.2 ⟨hs, ht⟩

theorem IsWord.isLine {word : String} (isWord : IsWord word) : IsLine word :=
  fun c hc => (isWord.2 c hc).2.2

/-- A text on one line without quotes and backslashes. -/
def IsPlain (s : String) : Prop := ∀ c ∈ s.toList, c ∉ quoting ∧ c ∉ Text.lineEnds

instance (s : String) : Decidable (IsPlain s) :=
  List.decidableBAll (fun c => c ∉ quoting ∧ c ∉ Text.lineEnds) s.toList

theorem IsPlain.append {s t : String} (hs : IsPlain s) (ht : IsPlain t) : IsPlain (s ++ t) := by
  unfold IsPlain
  rw [String.toList_append]
  exact List.forall_mem_append.2 ⟨hs, ht⟩

theorem IsWord.isPlain {word : String} (isWord : IsWord word) : IsPlain word :=
  fun c hc => (isWord.2 c hc).2

/-- Lines are the lines of the text that they are written to. -/
theorem lined_join {lines : List String} (inner : ∀ line ∈ lines, IsLine line) :
    Text.Lined (String.join (lines.map (· ++ "\n"))).toList (lines.map String.toList) := by
  induction lines with
  | nil => exact .nil
  | cons line lines ih =>
      obtain ⟨hline, hlines⟩ := List.forall_mem_cons.1 inner
      have htext : (String.join ((line :: lines).map (· ++ "\n"))).toList =
          line.toList ++ '\n' :: (String.join (lines.map (· ++ "\n"))).toList := by
        simp
      rw [htext]
      exact .single hline (by decide) (fun h => absurd h (by decide)) (ih hlines)

/-- A number as it stands in a layout text. -/
structure Numeral where
  text : String
  value : Float
  word : IsWord text
  read : Decimal.readNumber text = some value

/-- A line for a node: its ID, its place, and whatever follows. -/
structure NodeLine where
  id : String
  x : Numeral
  y : Numeral
  trailing : String
  boundary : Boundary trailing.toList
  plain : IsPlain trailing

def NodeLine.text (l : NodeLine) : String :=
  "node " ++ l.id ++ " " ++ l.x.text ++ " " ++ l.y.text ++ l.trailing

def NodeLine.line (l : NodeLine) : Line := .node l.id ⟨l.x.value, l.y.value⟩

/-- The answer of a layout program. -/
structure Answer where
  scale : String
  width : Numeral
  height : Numeral
  nodes : List NodeLine
  word : IsWord scale
  positive : 0 < width.value ∧ 0 < height.value

namespace Answer

def lines (a : Answer) : List String :=
  ("graph " ++ a.scale ++ " " ++ a.width.text ++ " " ++ a.height.text) ::
    (a.nodes.map NodeLine.text ++ ["stop"])

/-- The text of an answer, with a line feed after each line. -/
def text (a : Answer) : String := String.join (a.lines.map (· ++ "\n"))

/-- A text with the lines of an answer.  Line ends are of any kind, and none is needed after the
last line. -/
def Written (a : Answer) (text : String) : Prop :=
  Text.Lined text.toList (a.lines.map String.toList)

def size (a : Answer) : Pair := ⟨a.width.value, a.height.value⟩

def said (a : Answer) : List Line := .graph a.size :: (a.nodes.map NodeLine.line ++ [.other])

end Answer

theorem not_le_of_pos {x : Float} (h : 0 < x) : ¬ x ≤ 0.0 := by
  have hzero : (0.0 : Float) = 0 := by decide +kernel
  rw [hzero, Decimal.le_iff]
  exact fun hle => hle.2 h

theorem isLine_blank : IsLine " " := by decide

theorem NodeLine.isLine (l : NodeLine) (isWord : IsWord l.id) : IsLine l.text := by
  have hnode : IsLine "node " := by decide
  have htrailing : IsLine l.trailing := fun c hc => (l.plain c hc).2
  exact (((hnode.append isWord.isLine).append isLine_blank).append l.x.word.isLine
    |>.append isLine_blank).append l.y.word.isLine |>.append htrailing

theorem NodeLine.describes (l : NodeLine) (isWord : IsWord l.id) : Describes l.text l.line := by
  obtain ⟨words, hwords⟩ := exists_spelled fun c hc => (l.plain c hc).1
  refine ⟨"node" :: l.id :: l.x.text :: l.y.text :: words, ?_, ?_⟩
  · have hnode : IsWord "node" := by decide
    have hspelled := hnode.spelled_blank (isWord.spelled_blank (l.x.word.spelled_blank
      (l.y.word.spelled l.boundary hwords)))
    simpa [NodeLine.text] using hspelled
  · exact .node ((Decimal.readNumber_eq_some_iff _ _).1 l.x.read)
      ((Decimal.readNumber_eq_some_iff _ _).1 l.y.read)

namespace Answer

variable {a : Answer}

theorem describes (ids : ∀ l ∈ a.nodes, IsWord l.id) : List.Forall₂ Describes a.lines a.said := by
  refine .cons ⟨["graph", a.scale, a.width.text, a.height.text], ?_, ?_⟩ ?_
  · have hgraph : IsWord "graph" := by decide
    have hspelled := hgraph.spelled_blank (a.word.spelled_blank (a.width.word.spelled_blank
      (a.height.word.spelled boundary_nil .nil)))
    simpa using hspelled
  · exact .graph ((Decimal.readNumber_eq_some_iff _ _).1 a.width.read)
      ((Decimal.readNumber_eq_some_iff _ _).1 a.height.read)
      ⟨not_le_of_pos a.positive.1, not_le_of_pos a.positive.2⟩
  · refine List.rel_append ?_ (.cons ⟨["stop"], ?_, .other ?_ ?_⟩ .nil)
    · rw [List.forall₂_map_left_iff, List.forall₂_map_right_iff]
      exact List.forall₂_same.2 fun l hl => l.describes (ids l hl)
    · have hstop : IsWord "stop" := by decide
      simpa using hstop.spelled boundary_nil .nil
    · decide
    · decide

theorem written_text (ids : ∀ l ∈ a.nodes, IsWord l.id) : a.Written a.text := by
  refine lined_join (List.forall_mem_cons.2 ⟨?_, List.forall_mem_append.2 ⟨?_, ?_⟩⟩)
  · have hgraph : IsLine "graph " := by decide
    exact (((hgraph.append a.word.isLine).append isLine_blank).append a.width.word.isLine
      |>.append isLine_blank).append a.height.word.isLine
  · intro line hline
    obtain ⟨l, hl, rfl⟩ := List.mem_map.1 hline
    exact l.isLine (ids l hl)
  · decide

theorem Written.lines_eq {text : String} (written : a.Written text) :
    Text.lines text = a.lines := by
  have hinjective : Function.Injective String.toList := fun _ _ => String.toList_injective
  exact (List.map_injective_iff.2 hinjective ((lined_iff _ _).1 written)).symm

/-- What is read from an answer is what its lines say. -/
theorem Written.parse_eq {text : String} (written : a.Written text)
    (ids : ∀ l ∈ a.nodes, IsWord l.id) :
    Plain.parse text = .ok ⟨a.size, places a.said⟩ := by
  have hread := (readLines_eq_ok_iff 1 a.lines a.said).2 (describes ids)
  rw [Plain.parse, written.lines_eq, hread]
  rfl

theorem laidOut (a : Answer) : LaidOut a.said ⟨a.size, places a.said⟩ where
  size := ⟨[], _, rfl, List.forall_mem_nil _⟩
  keys := keys_places a.said
  place := lookup_places a.said

theorem nodeIds_said (a : Answer) : nodeIds a.said = a.nodes.map (·.id) := by
  have hnodes : nodeIds (a.nodes.map NodeLine.line) = a.nodes.map (·.id) := by
    rw [nodeIds, List.filterMap_map]
    exact congrFun List.filterMap_eq_map' a.nodes
  rw [said, ← List.singleton_append, nodeIds_append, nodeIds_append, hnodes]
  exact List.append_nil _

/-- The line for a node is the last one for it if there is only one. -/
theorem lastPlace_said (distinct : (a.nodes.map (·.id)).Nodup) {l : NodeLine} (hl : l ∈ a.nodes) :
    LastPlace a.said l.id ⟨l.x.value, l.y.value⟩ := by
  obtain ⟨before, after, hsplit⟩ := List.append_of_mem hl
  refine ⟨.graph a.size :: before.map NodeLine.line, after.map NodeLine.line ++ [.other], ?_, ?_⟩
  · simp [said, hsplit, NodeLine.line]
  · rw [hsplit, List.map_append, List.map_cons] at distinct
    have hlast := (List.nodup_cons.1 (List.nodup_append.1 distinct).2.1).1
    refine List.forall_mem_append.2 ⟨?_, by simp⟩
    intro line hline p heq
    obtain ⟨other, hother, rfl⟩ := List.mem_map.1 hline
    exact hlast ((Line.node.inj heq).1 ▸ List.mem_map_of_mem hother)

end Answer

end CallAtlas.Layout
