import CallAtlas.Proofs.GraphOrder
import CallAtlas.Proofs.LayoutAnswers
import CallAtlas.Proofs.LayoutInPlace

/-!
# Layouts are read back

The nodes of a graph are described to a layout program by their IDs, and the places in its answer
are written onto the nodes with these IDs.  Every node gets the place in its own line: an ID is one
word as it stands, different nodes have different IDs, and each of them is described once.
-/

namespace CallAtlas

theorem Text.mem_hexDigits {width n : Nat} {c : Char} (h : c ∈ Text.hexDigits width n) :
    ∃ k < 16, c = Text.hexDigit k := by
  induction width generalizing n with
  | zero => cases h
  | succ width ih =>
      rcases List.mem_append.1 h with h | h
      · exact ih h
      · exact ⟨n % 16, Nat.mod_lt _ (by decide), List.mem_singleton.1 h⟩

namespace CallGraph

theorem hexDigit_plain : ∀ k < 16, Layout.separates (Text.hexDigit k) = false ∧
    Text.hexDigit k ∉ Layout.quoting ∧ Text.hexDigit k ∉ Text.lineEnds := by
  decide

/-- Node IDs need no quotes. -/
theorem isWord_nodeId (methodId : String) : Layout.IsWord (nodeId methodId) := by
  unfold nodeId
  constructor
  · simp
  · rw [String.toList_ofList]
    refine List.forall_mem_cons.2 ⟨by decide, fun c hc => ?_⟩
    obtain ⟨word, -, hdigit⟩ := List.mem_flatMap.1 (List.mem_of_mem_take hc)
    obtain ⟨k, hk, rfl⟩ := Text.mem_hexDigits hdigit
    exact hexDigit_plain k hk

theorem apart_pair {id id' : String} (hne : nodeId id ≠ nodeId id') : Apart [id, id'] := by
  intro a ha b hb heq
  simp only [Set.mem_ofPred_eq, List.mem_cons, List.not_mem_nil, or_false] at ha hb
  rcases ha with rfl | rfl
  · rcases hb with rfl | rfl
    · rfl
    · exact absurd heq hne
  · rcases hb with rfl | rfl
    · exact absurd heq.symm hne
    · rfl

theorem sortedNodes_perm (g : CallGraph) : g.sortedNodes.Perm g.nodes :=
  List.mergeSort_perm g.nodes _

namespace Keeps

variable {g : CallGraph} {ids : List String} {calls : List (String × String)}

theorem nodeIds_eq (keeps : g.Keeps ids calls) : g.nodes.map (·.id) = ids.map nodeId := by
  rw [← keeps.methodIds_eq, methodIds, List.map_map]
  exact List.map_congr_left keeps.tidy.node_id

theorem nodeIds_nodup (keeps : g.Keeps ids calls) (apart : Apart ids) :
    (g.nodes.map (·.id)).Nodup := by
  rw [keeps.nodeIds_eq]
  exact List.Nodup.map_on (fun a ha b hb h => apart ha hb h) keeps.ids_nodup

theorem isWord_id (keeps : g.Keeps ids calls) {n : GraphNode} (hn : n ∈ g.nodes) :
    Layout.IsWord n.id := by
  rw [keeps.tidy.node_id n hn]
  exact isWord_nodeId n.method.id

theorem exists_words (keeps : g.Keeps ids calls) :
    ∃ words : List { id : String // Layout.IsWord id },
      words.map Subtype.val = g.sortedNodes.map (·.id) := by
  have isWord : ∀ id ∈ g.sortedNodes.map (·.id), Layout.IsWord id := by
    intro id hid
    obtain ⟨n, hn, rfl⟩ := List.mem_map.1 hid
    exact keeps.isWord_id (g.sortedNodes_perm.mem_iff.1 hn)
  exact ⟨_, List.attachWith_map_subtype_val isWord⟩

/-- No two nodes have the same name and ID. -/
theorem sortedNodes_increasing (keeps : g.Keeps ids calls) (apart : Apart ids) :
    g.sortedNodes.Pairwise fun a b => pairLE (sortKey a) (sortKey b) ∧ sortKey a ≠ sortKey b := by
  have hsorted : g.sortedNodes.Pairwise fun a b => pairLE (sortKey a) (sortKey b) :=
    List.pairwise_mergeSort (fun a b c => pairLE_trans (sortKey a) (sortKey b) (sortKey c))
      (fun a b => pairLE_total (sortKey a) (sortKey b)) g.nodes
  have hdistinct : (g.sortedNodes.map (·.id)).Nodup :=
    (g.sortedNodes_perm.map _).nodup_iff.2 (keeps.nodeIds_nodup apart)
  refine (hsorted.and (List.pairwise_map.1 hdistinct)).imp ?_
  rintro a b ⟨hle, hne⟩
  exact ⟨hle, fun hkey => hne (congrArg Prod.snd hkey)⟩

end Keeps

end CallGraph

namespace Layout

theorem nodes_describe (g : CallGraph) (rankDir : String) :
    (describe g rankDir).nodes.map Prod.fst = g.sortedNodes.map (·.id) := by
  rw [describe, Description.ofGraph, List.map_map]
  rfl

/-- A graph before and after an answer is read back.  Every node has moved to the place in the only
line for it, as a part of the whole size and stretched by the scales. -/
structure ReadBack (a : Answer) (scale : Pair) (g g' : CallGraph) : Prop where
  edges : g'.edges = g.edges
  register : g'.register = g.register
  nodes : List.Forall₂ (fun n n' => ∃ l ∈ a.nodes,
    (∀ other ∈ a.nodes, other.id = n.id ↔ other = l) ∧
    n' = { n with position := some ⟨scale.x * l.x.value / a.width.value,
      scale.y * l.y.value / a.height.value⟩ }) g.nodes g'.nodes

theorem LastPlace.unique {said : List Line} {id : String} {place place' : Pair}
    (h : LastPlace said id place) (h' : LastPlace said id place') : place = place' :=
  Option.some.inj (((lookup_places _ _ _).2 h).symm.trans ((lookup_places _ _ _).2 h'))

section

variable {a : Answer} {scale : Pair} {g g' : CallGraph}

/-- An answer with one line for each node moves all of them. -/
theorem ReadBack.of_rearranged (distinct : (g.nodes.map (·.id)).Nodup)
    (hids : (a.nodes.map (·.id)).Perm (g.nodes.map (·.id)))
    (rearranged : Rearranged a.said a.size scale g g') : ReadBack a scale g g' := by
  have hdistinct := hids.nodup_iff.2 distinct
  refine ⟨rearranged.edges, rearranged.register, ?_⟩
  have hlocated := (List.forall₂_and_left g.nodes g'.nodes).2 ⟨fun n hn => hn, rearranged.nodes⟩
  refine hlocated.imp ?_
  rintro n n' ⟨hn, position, rfl, located⟩
  have hid : n.id ∈ a.nodes.map (·.id) := hids.mem_iff.2 (List.mem_map_of_mem hn)
  cases located with
  | kept unnamed => exact absurd (a.nodeIds_said ▸ hid) unnamed
  | @moved place last =>
      obtain ⟨l, hl, hlid⟩ := List.mem_map.1 hid
      obtain rfl : place = ⟨l.x.value, l.y.value⟩ :=
        last.unique (hlid ▸ Answer.lastPlace_said hdistinct hl)
      refine ⟨l, hl, ?_, rfl⟩
      intro other hother
      constructor
      · intro hsame
        exact List.inj_on_of_nodup_map hdistinct hother hl (hsame.trans hlid.symm)
      · rintro rfl
        exact hlid

/-- An answer with one line for each node is applied. -/
theorem apply_of_answer (distinct : (g.nodes.map (·.id)).Nodup)
    (isWord : ∀ n ∈ g.nodes, IsWord n.id)
    (hids : (a.nodes.map (·.id)).Perm (g.nodes.map (·.id))) {text : String}
    (written : a.Written text) (scale : Pair) :
    ∃ g', apply g text scale = .ok g' ∧ ReadBack a scale g g' := by
  have hnode : ∀ id ∈ a.nodes.map (·.id), ∃ n ∈ g.nodes, n.id = id :=
    fun id hid => List.mem_map.1 (hids.mem_iff.1 hid)
  have hwords : ∀ l ∈ a.nodes, IsWord l.id := by
    intro l hl
    obtain ⟨n, hn, hid⟩ := hnode l.id (List.mem_map_of_mem hl)
    exact hid ▸ isWord n hn
  have known : ∀ id ∈ nodeIds a.said, g.node? id ≠ none := by
    intro id hid
    rw [a.nodeIds_said] at hid
    obtain ⟨n, hn, rfl⟩ := hnode id hid
    exact Option.ne_none_iff_exists'.2 (CallGraph.isSome_node? hn)
  exact ⟨_, apply_of_known (written.parse_eq hwords) a.laidOut known,
    .of_rearranged distinct hids (a.laidOut.rearranged scale g)⟩

end

/-! ## Rows -/

theorem isWord_toString (n : Nat) : IsWord (toString n) := by
  constructor
  · intro hempty
    have hread := Decimal.readNumber_toString n
    rw [hempty] at hread
    cases hread
  · intro c hc
    have hdigit := Decimal.toNat_of_isDigit (Decimal.allDigits_toString n c hc)
    have hne : ∀ d : Char, d.toNat < 48 ∨ 57 < d.toNat → c ≠ d := by
      rintro d hd rfl
      omega
    have hblank : separates c = false := by
      simp [separates, hne]
    refine ⟨hblank, ?_, ?_⟩
    · simp [quoting, hne]
    · simp [Text.lineEnds, hne]

def Numeral.ofNat (n : Nat) : Numeral where
  text := toString n
  value := Float.ofNat n
  word := isWord_toString n
  read := Decimal.readNumber_toString n

def rowLine (i : Nat) (id : { id : String // IsWord id }) : NodeLine where
  id := id
  x := .ofNat (i + 1)
  y := .ofNat 1
  trailing := " 0.5 0.5 " ++ id ++ " solid ellipse"
  boundary := by
    rw [String.append_assoc, String.toList_append]
    exact boundary_blank _
  plain := by
    have hsize : IsPlain " 0.5 0.5 " := by decide
    have hshape : IsPlain " solid ellipse" := by decide
    exact (hsize.append id.2.isPlain).append hshape

/-- The answer that puts nodes into a row. -/
def rowAnswer (ids : List { id : String // IsWord id }) : Answer where
  scale := "1"
  width := .ofNat (ids.length + 1)
  height := .ofNat 2
  nodes := ids.mapIdx rowLine
  word := by decide
  positive := ⟨Decimal.ofNat_pos (Nat.succ_ne_zero _), Decimal.ofNat_pos (by decide)⟩

theorem ids_rowAnswer (ids : List { id : String // IsWord id }) :
    (rowAnswer ids).nodes.map (·.id) = ids.map Subtype.val :=
  List.ext_getElem (by simp [rowAnswer]) fun i h h' => by simp [rowAnswer, rowLine]

theorem written_rowAnswer (ids : List { id : String // IsWord id }) :
    (rowAnswer ids).Written (rowAnswer ids).text := by
  refine Answer.written_text fun l hl => ?_
  obtain ⟨i, hi, rfl⟩ := List.mem_mapIdx.1 hl
  exact ids[i].2

theorem text_rowLine (i : Nat) (id : { id : String // IsWord id }) :
    (rowLine i id).text ++ "\n" =
      "node " ++ id ++ " " ++ toString (i + 1) ++ " 1 0.5 0.5 " ++ id ++ " solid ellipse\n" := by
  have hplace : " 1 0.5 0.5 " = " " ++ toString 1 ++ " 0.5 0.5 " := by decide
  have hshape : " solid ellipse\n" = " solid ellipse" ++ "\n" := by decide
  rw [hplace, hshape]
  simp only [NodeLine.text, rowLine, Numeral.ofNat, String.append_assoc]

/-- Nodes are put into a row if their IDs are words. -/
theorem row_eq {d : Description} {ids : List { id : String // IsWord id }}
    (hids : d.nodes.map Prod.fst = ids.map Subtype.val) :
    Engine.row d = .ok (rowAnswer ids).text := by
  have hlength : d.nodes.length = ids.length := by simpa using congrArg List.length hids
  have hrow : Engine.row d = .ok ("graph 1 " ++ toString (d.nodes.length + 1) ++ " 2\n" ++
      String.join (d.nodes.mapIdx fun i n =>
        "node " ++ n.1 ++ " " ++ toString (i + 1) ++ " 1 0.5 0.5 " ++ n.1 ++ " solid ellipse\n") ++
      "stop\n") := rfl
  have hlines : (d.nodes.mapIdx fun i n =>
      "node " ++ n.1 ++ " " ++ toString (i + 1) ++ " 1 0.5 0.5 " ++ n.1 ++ " solid ellipse\n") =
      ((rowAnswer ids).nodes.map NodeLine.text).map (· ++ "\n") := by
    refine List.ext_getElem (by simp [rowAnswer, hlength]) fun i h h' => ?_
    have hi : i < d.nodes.length := by simpa using h
    have hi' : i < ids.length := hlength ▸ hi
    have hid : d.nodes[i].1 = ids[i].val := by
      simpa [hi, hi'] using congrArg (·[i]?) hids
    simp [rowAnswer, text_rowLine, hid]
  have hstop : "stop\n" = "stop" ++ "\n" := by decide
  have hsize : " 2\n" = " " ++ toString 2 ++ "\n" := by decide
  rw [hrow, hlines, hlength, hstop, hsize]
  simp [Answer.text, Answer.lines, rowAnswer, Numeral.ofNat, String.append_assoc]

/-- A graph before and after its nodes are put into a row in the order of their names and IDs. -/
structure Aligned (scale : Pair) (g g' : CallGraph) : Prop where
  edges : g'.edges = g.edges
  register : g'.register = g.register
  nodes : ∃ ordered : List GraphNode, ordered.Perm g.nodes ∧
    ordered.Pairwise (fun a b => CallGraph.pairLE (CallGraph.sortKey a) (CallGraph.sortKey b) ∧
      CallGraph.sortKey a ≠ CallGraph.sortKey b) ∧
    List.Forall₂ (fun n n' => ∀ i, ordered[i]? = some n → n' = { n with
      position := some ⟨scale.x * Float.ofNat (i + 1) / Float.ofNat (ordered.length + 1),
        scale.y * 1 / 2⟩ }) g.nodes g'.nodes

/-- The line of a node says at which place of the row it stands. -/
theorem ReadBack.aligned {ids : List { id : String // IsWord id }} {scale : Pair} {g g' : CallGraph}
    (readBack : ReadBack (rowAnswer ids) scale g g')
    (hids : g.sortedNodes.map (·.id) = ids.map Subtype.val)
    (increasing : g.sortedNodes.Pairwise fun a b =>
      CallGraph.pairLE (CallGraph.sortKey a) (CallGraph.sortKey b) ∧
        CallGraph.sortKey a ≠ CallGraph.sortKey b) : Aligned scale g g' where
  edges := readBack.edges
  register := readBack.register
  nodes := by
    have hlength : g.sortedNodes.length = ids.length := by
      simpa using congrArg List.length hids
    refine ⟨g.sortedNodes, g.sortedNodes_perm, increasing, readBack.nodes.imp ?_⟩
    rintro n n' ⟨l, -, own, rfl⟩ i hi
    obtain ⟨hlt, rfl⟩ := List.getElem?_eq_some_iff.1 hi
    have hlt' : i < ids.length := hlength ▸ hlt
    have hid : ids[i].val = g.sortedNodes[i].id := by
      simpa [hlt, hlt'] using (congrArg (·[i]?) hids).symm
    have hmem : rowLine i ids[i] ∈ (rowAnswer ids).nodes := List.mem_mapIdx.2 ⟨i, hlt', rfl⟩
    obtain rfl := (own _ hmem).1 hid
    rw [hlength]
    rfl

namespace Work

section

variable {history : List CallGraph.Operation} {w : Workplace} {programs : String → Engine}
  {choice : Choice} {c : Settings.Config} {before after : Token}

/-- If the token lasts and the answer of the engine can be applied, the graph is laid out. -/
theorem perform_layOut_of_apply {text : String} {g' : CallGraph}
    (hnodes : w.graph.isEmpty = false) (hsettings : w.session.settingsOrDefaults.1 = .ok c)
    (hbefore : w.token.check = some before) (hafter : before.check = some after)
    (hanswer : choice.engineOr programs c.layout
      (describe w.graph (choice.optionsOr c.layout).rankDir) = .ok text)
    (happly : Layout.apply w.graph text (choice.optionsOr c.layout).scale = .ok g') :
    (layOut programs choice).perform w = (.ok (), ⟨g', after, w.session.settingsOrDefaults.2⟩) := by
  have hlaid := layOut_of_answer hnodes hbefore hanswer hafter
  rw [perform_layOut programs choice hnodes]
  rcases hloaded : w.session.settingsOrDefaults with ⟨_, session⟩
  rw [hloaded] at hsettings
  subst hsettings
  dsimp only
  have hrun := perform_runEngine (choice.engineOr programs c.layout) (choice.optionsOr c.layout)
    (w := { w with session := session }) hnodes
  rw [hrun]
  dsimp only
  rw [hlaid, happly]

theorem layOut_readBack (apart : CallGraph.Apart (CallGraph.methodsOf history))
    (hgraph : w.graph = CallGraph.after history) (hnodes : w.graph.isEmpty = false)
    (hsettings : w.session.settingsOrDefaults.1 = .ok c) (hbefore : w.token.check = some before)
    (hafter : before.check = some after) {answer : Answer} {text : String}
    (written : answer.Written text)
    (hanswer : choice.engineOr programs c.layout
      (describe w.graph (choice.optionsOr c.layout).rankDir) = .ok text)
    (hids : (answer.nodes.map (·.id)).Perm
      ((describe w.graph (choice.optionsOr c.layout).rankDir).nodes.map Prod.fst)) :
    ∃ w', (layOut programs choice).perform w = (.ok (), w') ∧
      ReadBack answer (choice.optionsOr c.layout).scale w.graph w'.graph := by
  have keeps := CallGraph.after_keeps history apart
  rw [← hgraph] at keeps
  rw [nodes_describe] at hids
  have hids' := hids.trans (w.graph.sortedNodes_perm.map (·.id))
  obtain ⟨g', happly, readBack⟩ := apply_of_answer (keeps.nodeIds_nodup apart)
    (fun n hn => keeps.isWord_id hn) hids' written (choice.optionsOr c.layout).scale
  exact ⟨_, perform_layOut_of_apply hnodes hsettings hbefore hafter hanswer happly, readBack⟩

/-- Whatever a layout program answers for the nodes of a graph, every node moves to the place in its
own line; a row puts them side by side in the order of their names and IDs. -/
theorem layOut_reads_back (apart : CallGraph.Apart (CallGraph.methodsOf history))
    (hgraph : w.graph = CallGraph.after history) (hnodes : w.graph.isEmpty = false)
    (hsettings : w.session.settingsOrDefaults.1 = .ok c) (hbefore : w.token.check = some before)
    (hafter : before.check = some after) :
    (∀ (answer : Answer) (text : String), answer.Written text →
      choice.engineOr programs c.layout
        (describe w.graph (choice.optionsOr c.layout).rankDir) = .ok text →
      (answer.nodes.map (·.id)).Perm
        ((describe w.graph (choice.optionsOr c.layout).rankDir).nodes.map Prod.fst) →
      ∃ w', (layOut programs choice).perform w = (.ok (), w') ∧
        ReadBack answer (choice.optionsOr c.layout).scale w.graph w'.graph) ∧
    (choice.engineOr programs c.layout = .row →
      ∃ w', (layOut programs choice).perform w = (.ok (), w') ∧
        Aligned (choice.optionsOr c.layout).scale w.graph w'.graph) := by
  refine ⟨fun answer text written hanswer hids =>
    layOut_readBack apart hgraph hnodes hsettings hbefore hafter written hanswer hids, ?_⟩
  intro hrow
  have keeps := CallGraph.after_keeps history apart
  rw [← hgraph] at keeps
  obtain ⟨ids, hids⟩ := keeps.exists_words
  have hdescribed := (nodes_describe w.graph (choice.optionsOr c.layout).rankDir).trans hids.symm
  have hperm : ((rowAnswer ids).nodes.map (·.id)).Perm
      ((describe w.graph (choice.optionsOr c.layout).rankDir).nodes.map Prod.fst) := by
    rw [ids_rowAnswer, hdescribed]
  obtain ⟨w', hperform, readBack⟩ := layOut_readBack apart hgraph hnodes hsettings hbefore hafter
    (written_rowAnswer ids) (hrow ▸ row_eq hdescribed) hperm
  exact ⟨w', hperform, readBack.aligned hids.symm (keeps.sortedNodes_increasing apart)⟩

end

def oneCall : List CallGraph.Operation := [.addEdge (.ofId "a.py::f") (.ofId "a.py::g")]

/-- A workplace with one call and default settings. -/
def bench : Workplace :=
  ⟨CallGraph.after oneCall, .never, ⟨⟨⟨[]⟩, [], [], "", []⟩, some (.default "")⟩⟩

/-- An answer that names the callee before the caller. -/
def backwards : Answer where
  scale := "1"
  width := .ofNat 100
  height := .ofNat 50
  nodes :=
    [⟨CallGraph.nodeId "a.py::g", .ofNat 75, .ofNat 25, " 0.5 g", boundary_blank _, by decide⟩,
      ⟨CallGraph.nodeId "a.py::f", .ofNat 25, .ofNat 25, "", boundary_nil, by decide⟩]
  word := by decide
  positive := ⟨Decimal.ofNat_pos (by decide), Decimal.ofNat_pos (by decide)⟩

/-- One call is laid out by a fixed answer, and by a program that puts nodes into a row. -/
theorem layOut_reads_back_oneCall :
    (∃ w', (layOut (fun _ => .row)
        ⟨some (.fixed backwards.text), some 2, some 4, none⟩).perform bench = (.ok (), w') ∧
      ReadBack backwards ⟨2, 4⟩ bench.graph w'.graph) ∧
    ∃ w', (layOut (fun _ => .row) ⟨none, some 2, some 4, none⟩).perform bench = (.ok (), w') ∧
      Aligned ⟨2, 4⟩ bench.graph w'.graph := by
  have hmethods : CallGraph.methodsOf oneCall = ["a.py::f", "a.py::g"] := by decide +kernel
  have apart : CallGraph.Apart (CallGraph.methodsOf oneCall) :=
    hmethods ▸ CallGraph.apart_pair (by decide +kernel)
  have hids : bench.graph.nodes.map (·.id) =
      [CallGraph.nodeId "a.py::f", CallGraph.nodeId "a.py::g"] := by
    have keeps := CallGraph.after_keeps oneCall apart
    rw [hmethods] at keeps
    exact keeps.nodeIds_eq
  have hnodes : bench.graph.isEmpty = false := by
    refine List.isEmpty_eq_false_iff.2 fun hempty => ?_
    rw [hempty] at hids
    cases hids
  refine ⟨(layOut_reads_back apart rfl hnodes rfl rfl rfl).1 backwards backwards.text ?_ rfl ?_,
    (layOut_reads_back apart rfl hnodes rfl rfl rfl).2 rfl⟩
  · refine Answer.written_text ?_
    simp [backwards, CallGraph.isWord_nodeId]
  · rw [nodes_describe]
    refine .trans ?_ (bench.graph.sortedNodes_perm.map (·.id)).symm
    rw [hids]
    exact .swap ..

end Work

end Layout

end CallAtlas
