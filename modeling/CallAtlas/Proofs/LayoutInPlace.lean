import CallAtlas.Layout.InPlace
import CallAtlas.Proofs.CallersMap
import CallAtlas.Proofs.GraphStore
import CallAtlas.Proofs.PlainLayout

/-!
# Layouts are written wholly or not at all

Work in place keeps what it has changed when it fails.  A layout nevertheless leaves no trace of a
failure: looking up nodes changes nothing, and once all of them are found nothing can fail any more.
-/

namespace CallAtlas

namespace CallGraph

theorem place_none (g : CallGraph) : g.place (fun _ => none) = g := by
  simp [place]

/-- Nodes that are moved twice stand where the second move puts them. -/
theorem place_place (g : CallGraph) (first second : String → Option Point) :
    (g.place first).place second = g.place fun id => (second id).or (first id) := by
  simp only [place, List.map_map, CallGraph.mk.injEq, and_true]
  refine List.map_congr_left fun n _ => ?_
  cases hfirst : first n.id <;> cases hsecond : second n.id <;>
    simp [hfirst, hsecond]

end CallGraph

namespace Layout

namespace Work

section

variable {α β : Type}

theorem perform_modify (change : Workplace → Workplace) (w : Workplace) :
    (modify change : Work Unit).perform w = (.ok (), change w) := rfl

theorem perform_get (w : Workplace) : (get : Work Workplace).perform w = (.ok w, w) := rfl

theorem perform_bind (x : Work α) (next : α → Work β) (w : Workplace) :
    (x >>= next).perform w =
      match x.perform w with
      | (.ok a, w') => (next a).perform w'
      | (.error f, w') => (.error f, w') := by
  have hthread : (x >>= next).perform w =
      (ExceptT.bindCont next (x.perform w).1).run (x.perform w).2 := rfl
  rw [hthread]
  rcases x.perform w with ⟨_ | _, _⟩ <;> rfl

theorem perform_bind_ok {x : Work α} {w w' : Workplace} {a : α}
    (h : x.perform w = (.ok a, w')) (next : α → Work β) :
    (x >>= next).perform w = (next a).perform w' := by
  rw [perform_bind, h]

theorem perform_bind_error {x : Work α} {w w' : Workplace} {f : Failure}
    (h : x.perform w = (.error f, w')) (next : α → Work β) :
    (x >>= next).perform w = (.error f, w') := by
  rw [perform_bind, h]

theorem perform_ofExcept {ε : Type} (failure : ε → Failure) (x : Except ε α) (w : Workplace) :
    (ofExcept failure x).perform w = (x.mapError failure, w) := by
  cases x <;> rfl

end

theorem perform_node_some {id : String} {w : Workplace} {n : GraphNode}
    (h : w.graph.node? id = some n) : (node id).perform w = (.ok n, w) := by
  rw [node, perform_bind_ok (perform_get w), h]
  rfl

theorem perform_node_none {id : String} {w : Workplace} (h : w.graph.node? id = none) :
    (node id).perform w = (.error (.unknownNode id), w) := by
  rw [node, perform_bind_ok (perform_get w), h]
  rfl

/-! ## Applying -/

theorem lookUp_cons (id : String) (p : Pair) (places : List (String × Pair)) :
    lookUp ((id, p) :: places) = do
      let n ← node id
      let nodes ← lookUp places
      return (n, p) :: nodes := by
  simp [lookUp, List.mapM_cons]

/-- Looking up nodes changes nothing. -/
theorem perform_lookUp_ok {places : List (String × Pair)} {w : Workplace}
    (h : ∀ p ∈ places, w.graph.node? p.1 ≠ none) :
    ∃ nodes, (lookUp places).perform w = (.ok nodes, w) ∧
      nodes.map (fun np => (np.1.id, np.2)) = places := by
  induction places with
  | nil => exact ⟨[], rfl, rfl⟩
  | cons entry places ih =>
      obtain ⟨id, p⟩ := entry
      obtain ⟨hentry, hplaces⟩ := List.forall_mem_cons.1 h
      obtain ⟨n, hn⟩ := Option.ne_none_iff_exists'.1 hentry
      obtain ⟨nodes, hnodes, rfl⟩ := ih hplaces
      refine ⟨(n, p) :: nodes, ?_, ?_⟩
      · rw [lookUp_cons, perform_bind_ok (perform_node_some hn), perform_bind_ok hnodes]
        rfl
      · rw [List.map_cons, CallGraph.node?_id hn]

/-- Looking up nodes fails with the first one that is not there. -/
theorem perform_lookUp_error {places : List (String × Pair)} {w : Workplace} {p : String × Pair}
    (h : (places.find? fun p => (w.graph.node? p.1).isNone) = some p) :
    (lookUp places).perform w = (.error (.unknownNode p.1), w) := by
  induction places with
  | nil => cases h
  | cons entry places ih =>
      obtain ⟨id, q⟩ := entry
      rw [lookUp_cons]
      cases hn : w.graph.node? id with
      | none =>
          obtain rfl : (id, q) = p := by simpa [hn] using h
          rw [perform_bind_error (perform_node_none hn)]
      | some n =>
          have hplaces := ih (by simpa [hn] using h)
          rw [perform_bind_ok (perform_node_some hn), perform_bind_error hplaces]

theorem perform_move (n : GraphNode) (p : Point) (w : Workplace) :
    (move n p).perform w =
      (.ok (), { w with graph := w.graph.place fun id => if id = n.id then some p else none }) :=
  rfl

theorem moveAll_cons (n : GraphNode) (p : Pair) (nodes : List (GraphNode × Pair)) :
    moveAll ((n, p) :: nodes) = (do move n ⟨p.x, p.y⟩; moveAll nodes) :=
  rfl

def point? (places : List (String × Pair)) (id : String) : Option Point :=
  (places.lookup id).map fun p => ⟨p.x, p.y⟩

theorem point?_cons {id : String} {places : List (String × Pair)} (h : id ∉ places.map Prod.fst)
    (p : Pair) (key : String) :
    point? ((id, p) :: places) key =
      (point? places key).or (if key = id then some ⟨p.x, p.y⟩ else none) := by
  rw [point?, point?, lookup_entry]
  by_cases hkey : key = id
  · subst hkey
    rw [(lookup_eq_none_iff_notMem places key).2 h, if_pos rfl, if_pos rfl]
    rfl
  · rw [if_neg hkey, if_neg hkey, Option.or_none]

/-- Moving nodes never fails, and each node ends where its own move puts it. -/
theorem perform_moveAll (nodes : List (GraphNode × Pair)) (w : Workplace)
    {places : List (String × Pair)} (h : nodes.map (fun np => (np.1.id, np.2)) = places)
    (distinct : (places.map Prod.fst).Nodup) :
    (moveAll nodes).perform w = (.ok (), { w with graph := w.graph.place (point? places) }) := by
  induction nodes generalizing w places with
  | nil =>
      subst h
      have hstay : w.graph.place (point? []) = w.graph := w.graph.place_none
      rw [List.map_nil, hstay]
      rfl
  | cons entry nodes ih =>
      subst h
      obtain ⟨n, p⟩ := entry
      obtain ⟨hn, distinct⟩ := List.nodup_cons.1 distinct
      rw [moveAll_cons, perform_bind_ok (perform_move n _ w), ih _ rfl distinct]
      -- no later move is for the same node, so the order of the two does not matter
      dsimp only
      rw [CallGraph.place_place, List.map_cons, funext (point?_cons hn p)]

theorem keys_normalized (plain : Plain) (scale : Pair) :
    (plain.normalized scale).map Prod.fst = plain.positions.map Prod.fst := by
  rw [Plain.normalized, List.map_map]
  rfl

theorem nodup_keys_of_parse {text : String} {plain : Plain} (h : Plain.parse text = .ok plain)
    (scale : Pair) : ((plain.normalized scale).map Prod.fst).Nodup := by
  obtain ⟨said, -, hlaid⟩ := parse_ok_laidOut h
  rw [keys_normalized, hlaid.keys]
  exact nodup_eraseDups _

/-- Work in place writes what a layout text says, and nothing at all if it fails. -/
theorem perform_apply (text : String) (scale : Pair) (w : Workplace) :
    (apply text scale).perform w =
      match Layout.apply w.graph text scale with
      | .ok g => (.ok (), { w with graph := g })
      | .error f => (.error f, w) := by
  rw [apply, Layout.apply]
  cases hparse : Plain.parse text with
  | error e => rfl
  | ok plain =>
      rw [perform_bind_ok (perform_ofExcept _ _ w)]
      dsimp only
      cases hfind : (plain.normalized scale).find? fun p => (w.graph.node? p.1).isNone with
      | some p => rw [perform_bind_error (perform_lookUp_error hfind)]
      | none =>
          have hknown : ∀ p ∈ plain.normalized scale, w.graph.node? p.1 ≠ none := by
            simpa using List.find?_eq_none.1 hfind
          obtain ⟨nodes, hnodes, hplaces⟩ := perform_lookUp_ok hknown
          rw [perform_bind_ok hnodes,
            perform_moveAll nodes w hplaces (nodup_keys_of_parse hparse scale)]
          rfl

theorem perform_checkToken_some {w : Workplace} {token : Token} (h : w.token.check = some token) :
    checkToken.perform w = (.ok (), { w with token := token }) := by
  rw [checkToken, perform_bind_ok (perform_get w), h]
  rfl

theorem perform_checkToken_none {w : Workplace} (h : w.token.check = none) :
    checkToken.perform w = (.error .cancelled, w) := by
  rw [checkToken, perform_bind_ok (perform_get w), h]
  rfl

/-- Work with an engine lays out a graph that has nodes. -/
theorem perform_runEngine (engine : Engine) (options : Options) {w : Workplace}
    (hnodes : w.graph.isEmpty = false) :
    (runEngine engine options).perform w =
      match Layout.layOut w.graph engine options w.token with
      | (.ok g, token) => (.ok (), { w with graph := g, token := token })
      | (.error f, token) => (.error f, { w with token := token }) := by
  rw [runEngine, perform_bind_ok (perform_get w), Layout.layOut, hnodes]
  dsimp only
  cases hbefore : w.token.check with
  | none => exact perform_bind_error (perform_checkToken_none hbefore) _
  | some before =>
      rw [perform_bind_ok (perform_checkToken_some hbefore), perform_bind, perform_ofExcept]
      simp only [finish]
      cases engine (describe w.graph options.rankDir) with
      | error e => rfl
      | ok text =>
          dsimp only [Except.mapError]
          cases hafter : before.check with
          | none =>
              have hcheck : checkToken.perform { w with token := before } =
                (.error .cancelled, { w with token := before }) := perform_checkToken_none hafter
              exact perform_bind_error hcheck _
          | some after =>
              have hcheck : checkToken.perform { w with token := before } =
                (.ok (), { w with token := after }) := perform_checkToken_some hafter
              rw [perform_bind_ok hcheck, perform_apply]
              cases Layout.apply w.graph text options.scale <;> rfl

theorem perform_settings (w : Workplace) :
    settings.perform w =
      (w.session.settingsOrDefaults.1.mapError .settings,
        { w with session := w.session.settingsOrDefaults.2 }) := by
  rw [settings, perform_bind_ok (perform_get w)]
  dsimp only
  rw [perform_bind_ok (perform_modify _ w), perform_ofExcept]

/-- Work in place fails with settings that cannot be loaded, and else it lays out the graph with
what is chosen or set. -/
theorem perform_layOut (programs : String → Engine) (choice : Choice) {w : Workplace}
    (hnodes : w.graph.isEmpty = false) :
    (layOut programs choice).perform w =
      match w.session.settingsOrDefaults with
      | (.error e, session) => (.error (.settings e), { w with session := session })
      | (.ok c, session) =>
        (runEngine (choice.engineOr programs c.layout) (choice.optionsOr c.layout)).perform
          { w with session := session } := by
  rw [layOut, perform_bind_ok (perform_get w), if_neg (by simp [hnodes])]
  have hsettings := perform_settings w
  rcases hloaded : w.session.settingsOrDefaults with ⟨e | c, session⟩
  · rw [hloaded] at hsettings
    exact perform_bind_error hsettings _
  · rw [hloaded] at hsettings
    exact perform_bind_ok hsettings _

theorem perform_layOut_empty (programs : String → Engine) (choice : Choice) {w : Workplace}
    (h : w.graph.isEmpty = true) : (layOut programs choice).perform w = (.ok (), w) := by
  rw [layOut, perform_bind_ok (perform_get w), if_pos h]
  rfl

end Work

/-! ## What is written -/

theorem mem_nodeIds {said : List Line} {id : String} :
    id ∈ nodeIds said ↔ ∃ place, .node id place ∈ said := by
  rw [nodeIds, List.mem_filterMap]
  constructor
  · rintro ⟨l, hl, hid⟩
    cases l with
    | node id' place =>
        obtain rfl := Option.some.inj hid
        exact ⟨place, hl⟩
    | graph size => cases hid
    | other => cases hid
  · rintro ⟨place, hplace⟩
    exact ⟨_, hplace, rfl⟩

/-- The nodes that lines name are those of the node lines. -/
theorem mem_nodeIds_iff {lines : List String} {said : List Line}
    (h : List.Forall₂ Describes lines said) {id : String} :
    id ∈ nodeIds said ↔ ∃ line ∈ lines, ∃ place, Describes line (.node id place) := by
  rw [mem_nodeIds]
  constructor
  · rintro ⟨place, hplace⟩
    obtain ⟨line, hline, hdescribes⟩ := exists_right_of_forall₂ h.flip hplace
    exact ⟨line, hline, place, hdescribes⟩
  · rintro ⟨line, hline, place, hdescribes⟩
    obtain ⟨l, hl, hdescribes'⟩ := exists_right_of_forall₂ h hline
    rw [← hdescribes.unique hdescribes'] at hl
    exact ⟨place, hl⟩

/-- Where a node stands after a layout: at the place in the last line for it, as a part of the whole
size and stretched by the scales, or where it stood before if no line names it. -/
inductive Located (said : List Line) (size scale : Pair) (n : GraphNode) : Option Point → Prop where
  | moved {place : Pair} (last : LastPlace said n.id place) :
      Located said size scale n
        (some ⟨scale.x * place.x / size.x, scale.y * place.y / size.y⟩)
  | kept (unnamed : n.id ∉ nodeIds said) : Located said size scale n n.position

/-- A graph before and after a layout is applied to it.  Only the positions of nodes may differ. -/
structure Rearranged (said : List Line) (size scale : Pair) (g g' : CallGraph) : Prop where
  edges : g'.edges = g.edges
  register : g'.register = g.register
  nodes : List.Forall₂ (fun n n' => ∃ position, n' = { n with position := position } ∧
    Located said size scale n position) g.nodes g'.nodes

def Applied (text : String) (scale : Pair) (g g' : CallGraph) : Prop :=
  ∃ said size, List.Forall₂ Describes (Text.lines text) said ∧ FirstSize said size ∧
    Rearranged said size scale g g'

theorem lookup_normalized (plain : Plain) (scale : Pair) (id : String) :
    (plain.normalized scale).lookup id = (plain.positions.lookup id).map fun place =>
      ⟨scale.x * place.x / plain.size.x, scale.y * place.y / plain.size.y⟩ := by
  rw [Plain.normalized]
  induction plain.positions with
  | nil => rfl
  | cons entry positions ih =>
      obtain ⟨k, p⟩ := entry
      rw [List.map_cons, lookup_entry, lookup_entry, ih]
      split <;> rfl

theorem LaidOut.located {said : List Line} {plain : Plain} (laidOut : LaidOut said plain)
    (scale : Pair) (n : GraphNode) :
    Located said plain.size scale n
      (match Work.point? (plain.normalized scale) n.id with
        | some p => some p
        | none => n.position) := by
  rw [Work.point?, lookup_normalized]
  cases hplace : plain.positions.lookup n.id with
  | some place => exact .moved ((laidOut.place n.id place).1 hplace)
  | none =>
      refine .kept fun hnamed => ?_
      rw [← List.mem_eraseDups, ← laidOut.keys] at hnamed
      exact (lookup_eq_none_iff_notMem _ _).1 hplace hnamed

theorem LaidOut.rearranged {said : List Line} {plain : Plain} (laidOut : LaidOut said plain)
    (scale : Pair) (g : CallGraph) :
    Rearranged said plain.size scale g (g.place (Work.point? (plain.normalized scale))) where
  edges := rfl
  register := rfl
  nodes := by
    rw [CallGraph.place, List.forall₂_map_right_iff]
    refine List.forall₂_same.2 fun n _ => ?_
    have hlocated := laidOut.located scale n
    cases hpoint : Work.point? (plain.normalized scale) n.id with
    | some p =>
        rw [hpoint] at hlocated
        exact ⟨some p, rfl, hlocated⟩
    | none =>
        rw [hpoint] at hlocated
        exact ⟨n.position, rfl, hlocated⟩

theorem LaidOut.mem_keys {said : List Line} {plain : Plain} (laidOut : LaidOut said plain)
    (scale : Pair) {id : String} :
    id ∈ nodeIds said ↔ ∃ p ∈ plain.normalized scale, p.1 = id := by
  rw [← List.mem_map, Work.keys_normalized, laidOut.keys, List.mem_eraseDups]

/-- A layout text is applied if all nodes that its lines name are there. -/
theorem apply_of_known {g : CallGraph} {text : String} {scale : Pair} {plain : Plain}
    {said : List Line} (hparse : Plain.parse text = .ok plain) (laidOut : LaidOut said plain)
    (known : ∀ id ∈ nodeIds said, g.node? id ≠ none) :
    apply g text scale = .ok (g.place (Work.point? (plain.normalized scale))) := by
  have hfind : ((plain.normalized scale).find? fun p => (g.node? p.1).isNone) = none := by
    rw [List.find?_eq_none]
    intro p hp hnone
    exact known p.1 ((laidOut.mem_keys scale).2 ⟨p, hp, rfl⟩) (Option.isNone_iff_eq_none.1 hnone)
  rw [apply, hparse]
  dsimp only
  rw [hfind]
  rfl

/-- A layout text is not applied if one of the nodes that its lines name is not there. -/
theorem apply_of_unknown {g : CallGraph} {text : String} {scale : Pair} {plain : Plain}
    {said : List Line} (hparse : Plain.parse text = .ok plain) (laidOut : LaidOut said plain)
    {id : String} (hid : id ∈ nodeIds said) (hnone : g.node? id = none) :
    ∃ id', apply g text scale = .error (.unknownNode id') := by
  obtain ⟨p, hp, rfl⟩ := (laidOut.mem_keys scale).1 hid
  have hfind : ((plain.normalized scale).find? fun p => (g.node? p.1).isNone).isSome = true :=
    List.find?_isSome.2 ⟨p, hp, Option.isNone_iff_eq_none.2 hnone⟩
  obtain ⟨first, hfirst⟩ := Option.isSome_iff_exists.1 hfind
  refine ⟨first.1, ?_⟩
  rw [apply, hparse]
  dsimp only
  rw [hfirst]

/-- How applying a layout text ends. -/
theorem apply_cases (g : CallGraph) (text : String) (scale : Pair) :
    (∃ e, Plain.parse text = .error e ∧ apply g text scale = .error (.malformed e)) ∨
    ∃ plain said, Plain.parse text = .ok plain ∧ List.Forall₂ Describes (Text.lines text) said ∧
      ((∃ id ∈ nodeIds said, g.node? id = none ∧
          ∃ id', apply g text scale = .error (.unknownNode id')) ∨
        (∀ id ∈ nodeIds said, g.node? id ≠ none) ∧
          ∃ g', apply g text scale = .ok g' ∧ Applied text scale g g') := by
  cases hparse : Plain.parse text with
  | error e => exact .inl ⟨e, rfl, by rw [apply, hparse]⟩
  | ok plain =>
      obtain ⟨said, hsaid, laidOut⟩ := parse_ok_laidOut hparse
      refine .inr ⟨plain, said, rfl, hsaid, ?_⟩
      by_cases known : ∀ id ∈ nodeIds said, g.node? id ≠ none
      · refine .inr ⟨known, _, apply_of_known hparse laidOut known, said, plain.size, hsaid,
          laidOut.size, laidOut.rearranged scale g⟩
      · simp only [not_forall, not_not] at known
        obtain ⟨id, hid, hnone⟩ := known
        exact .inl ⟨id, hid, hnone, apply_of_unknown hparse laidOut hid hnone⟩

/-! ## Wholly or not at all -/

/-- A graph is laid out if it has no nodes, or if the answer of the engine is applied to it. -/
theorem layOut_ok {g g' : CallGraph} {engine : Engine} {options : Options} {token token' : Token}
    (h : layOut g engine options token = (.ok g', token')) :
    g.isEmpty = true ∧ g' = g ∨
      ∃ text, engine (describe g options.rankDir) = .ok text ∧
        apply g text options.scale = .ok g' := by
  unfold layOut at h
  split at h
  · rename_i hempty
    exact .inl ⟨hempty, (Except.ok.inj (Prod.mk.inj h).1).symm⟩
  · split at h
    · cases h
    · unfold finish at h
      split at h
      · cases h
      · rename_i text hanswer
        split at h
        · cases h
        · exact .inr ⟨text, hanswer, (Prod.mk.inj h).1⟩

theorem layOut_of_answer {g : CallGraph} {engine : Engine} {options : Options}
    {token before after : Token} {text : String} (hnodes : g.isEmpty = false)
    (hbefore : token.check = some before)
    (hanswer : engine (describe g options.rankDir) = .ok text)
    (hafter : before.check = some after) :
    layOut g engine options token = (apply g text options.scale, after) := by
  simp only [layOut, hnodes, hbefore, hanswer, finish, hafter, Bool.false_eq_true, if_false]

namespace Work

/-- How applying a layout text in place ends. -/
theorem perform_apply_cases (text : String) (scale : Pair) (w : Workplace) :
    (∃ e, Plain.parse text = .error e ∧
      (apply text scale).perform w = (.error (.malformed e), w)) ∨
    ∃ plain said, Plain.parse text = .ok plain ∧ List.Forall₂ Describes (Text.lines text) said ∧
      ((∃ id ∈ nodeIds said, w.graph.node? id = none ∧
          ∃ id', (apply text scale).perform w = (.error (.unknownNode id'), w)) ∨
        (∀ id ∈ nodeIds said, w.graph.node? id ≠ none) ∧
          ∃ g', (apply text scale).perform w = (.ok (), { w with graph := g' }) ∧
            Applied text scale w.graph g') := by
  rw [perform_apply]
  rcases apply_cases w.graph text scale with ⟨e, hparse, happly⟩ |
    ⟨plain, said, hparse, hsaid, ⟨id, hid, hnone, id', happly⟩ | ⟨known, g', happly, applied⟩⟩
  · exact .inl ⟨e, hparse, by rw [happly]⟩
  · exact .inr ⟨plain, said, hparse, hsaid, .inl ⟨id, hid, hnone, id', by rw [happly]⟩⟩
  · exact .inr ⟨plain, said, hparse, hsaid, .inr ⟨known, g', by rw [happly], applied⟩⟩

theorem apply_unchanged {text : String} {scale : Pair} {w w' : Workplace} {f : Failure}
    (h : (apply text scale).perform w = (.error f, w')) :
    w' = w ∧ ((∃ e, f = .malformed e) ∨ ∃ id, f = .unknownNode id) := by
  rcases perform_apply_cases text scale w with ⟨e, -, hperform⟩ |
    ⟨-, -, -, -, ⟨-, -, -, id, hperform⟩ | ⟨-, g', hperform, -⟩⟩
  · obtain ⟨hf, rfl⟩ := Prod.mk.inj (hperform.symm.trans h)
    exact ⟨rfl, .inl ⟨e, (Except.error.inj hf).symm⟩⟩
  · obtain ⟨hf, rfl⟩ := Prod.mk.inj (hperform.symm.trans h)
    exact ⟨rfl, .inr ⟨id, (Except.error.inj hf).symm⟩⟩
  · cases hperform.symm.trans h

theorem apply_malformed_iff (text : String) (scale : Pair) (w : Workplace) :
    (∃ e w', (apply text scale).perform w = (.error (.malformed e), w')) ↔
      ¬ ∃ plain, Plain.parse text = .ok plain := by
  rcases perform_apply_cases text scale w with ⟨e, hparse, hperform⟩ |
    ⟨plain, -, hparse, -, ⟨-, -, -, id, hperform⟩ | ⟨-, g', hperform, -⟩⟩
  · rw [hparse]
    exact iff_of_true ⟨e, w, hperform⟩ (fun ⟨_, h⟩ => by cases h)
  · refine iff_of_false ?_ (not_not_intro ⟨plain, hparse⟩)
    rintro ⟨e, w', h⟩
    cases hperform.symm.trans h
  · refine iff_of_false ?_ (not_not_intro ⟨plain, hparse⟩)
    rintro ⟨e, w', h⟩
    cases hperform.symm.trans h

theorem apply_unknown_iff {text : String} (hread : ∃ plain, Plain.parse text = .ok plain)
    (scale : Pair) (w : Workplace) :
    (∃ id w', (apply text scale).perform w = (.error (.unknownNode id), w')) ↔
      ∃ line ∈ Text.lines text, ∃ id place, Describes line (.node id place) ∧
        w.graph.node? id = none := by
  rcases perform_apply_cases text scale w with ⟨e, hparse, -⟩ |
    ⟨plain, said, hparse, hsaid, ⟨id, hid, hnone, id', hperform⟩ | ⟨known, g', hperform, -⟩⟩
  · obtain ⟨plain, hplain⟩ := hread
    cases hparse.symm.trans hplain
  · obtain ⟨line, hline, place, hdescribes⟩ := (mem_nodeIds_iff hsaid).1 hid
    exact iff_of_true ⟨id', w, hperform⟩ ⟨line, hline, id, place, hdescribes, hnone⟩
  · refine iff_of_false ?_ ?_
    · rintro ⟨id, w', h⟩
      cases hperform.symm.trans h
    · rintro ⟨line, hline, id, place, hdescribes, hnone⟩
      exact known id ((mem_nodeIds_iff hsaid).2 ⟨line, hline, place, hdescribes⟩) hnone

theorem apply_applied {text : String} {scale : Pair} {w w' : Workplace}
    (h : (apply text scale).perform w = (.ok (), w')) : Applied text scale w.graph w'.graph := by
  rcases perform_apply_cases text scale w with ⟨e, -, hperform⟩ |
    ⟨-, -, -, -, ⟨-, -, -, id, hperform⟩ | ⟨-, g', hperform, applied⟩⟩
  · cases hperform.symm.trans h
  · cases hperform.symm.trans h
  · obtain rfl := (Prod.mk.inj (hperform.symm.trans h)).2
    exact applied

theorem runEngine_unchanged {engine : Engine} {options : Options} {w w' : Workplace} {f : Failure}
    (h : (runEngine engine options).perform w = (.error f, w'))
    (hnodes : w.graph.isEmpty = false) : w'.graph = w.graph := by
  rw [perform_runEngine engine options hnodes] at h
  split at h
  · cases h
  · obtain rfl := (Prod.mk.inj h).2
    rfl

/-- A graph that is laid out is one to which the answer of the engine has been applied. -/
theorem runEngine_applied {engine : Engine} {options : Options} {w w' : Workplace}
    (h : (runEngine engine options).perform w = (.ok (), w')) (hnodes : w.graph.isEmpty = false) :
    ∃ text, engine (describe w.graph options.rankDir) = .ok text ∧
      Applied text options.scale w.graph w'.graph := by
  rw [perform_runEngine engine options hnodes] at h
  split at h
  · rename_i g token hlaid
    obtain rfl := (Prod.mk.inj h).2
    rcases layOut_ok hlaid with ⟨hempty, -⟩ | ⟨text, hanswer, happly⟩
    · rw [hempty] at hnodes
      cases hnodes
    · have hperform : (apply text options.scale).perform w = (.ok (), { w with graph := g }) := by
        rw [perform_apply, happly]
      have happlied := apply_applied hperform
      exact ⟨text, hanswer, happlied⟩
  · cases h

theorem layOut_unchanged {programs : String → Engine} {choice : Choice} {w w' : Workplace}
    {f : Failure} (h : (layOut programs choice).perform w = (.error f, w')) :
    w'.graph = w.graph := by
  cases hempty : w.graph.isEmpty with
  | true =>
      rw [perform_layOut_empty programs choice hempty] at h
      cases h
  | false =>
      rw [perform_layOut programs choice hempty] at h
      split at h
      · obtain rfl := (Prod.mk.inj h).2
        rfl
      · have hkept := runEngine_unchanged h hempty
        exact hkept

theorem layOut_applied {programs : String → Engine} {choice : Choice} {w w' : Workplace}
    (h : (layOut programs choice).perform w = (.ok (), w')) :
    w.graph.isEmpty = true ∧ w' = w ∨
      ∃ c text, w.session.settingsOrDefaults.1 = .ok c ∧
        choice.engineOr programs c.layout
          (describe w.graph (choice.optionsOr c.layout).rankDir) = .ok text ∧
        Applied text (choice.optionsOr c.layout).scale w.graph w'.graph := by
  cases hempty : w.graph.isEmpty with
  | true =>
      rw [perform_layOut_empty programs choice hempty] at h
      exact .inl ⟨rfl, (Prod.mk.inj h).2.symm⟩
  | false =>
      rw [perform_layOut programs choice hempty] at h
      split at h
      · cases h
      · rename_i c session hsettings
        obtain ⟨text, hanswer, happlied⟩ := runEngine_applied h hempty
        exact .inr ⟨c, text, by rw [hsettings], hanswer, happlied⟩

/-- If the token lasts and the engine answers, a layout ends as applying the answer does. -/
theorem layOut_answered {programs : String → Engine} {choice : Choice} {w : Workplace}
    {c : Settings.Config} {text : String} {before after : Token}
    (hnodes : w.graph.isEmpty = false) (hsettings : w.session.settingsOrDefaults.1 = .ok c)
    (hbefore : w.token.check = some before)
    (hanswer : choice.engineOr programs c.layout
      (describe w.graph (choice.optionsOr c.layout).rankDir) = .ok text)
    (hafter : before.check = some after) :
    ((layOut programs choice).perform w).1 =
      ((apply text (choice.optionsOr c.layout).scale).perform w).1 := by
  have hlaid := layOut_of_answer hnodes hbefore hanswer hafter
  rw [perform_layOut programs choice hnodes, perform_apply]
  rcases hloaded : w.session.settingsOrDefaults with ⟨_, session⟩
  rw [hloaded] at hsettings
  subst hsettings
  dsimp only
  have hrun := perform_runEngine (choice.engineOr programs c.layout) (choice.optionsOr c.layout)
    (w := { w with session := session }) hnodes
  rw [hrun]
  dsimp only
  rw [hlaid]
  cases Layout.apply w.graph text (choice.optionsOr c.layout).scale <;> rfl

/-- A layout is written onto the graph wholly or not at all.  Applying a text fails exactly if the
text cannot be read or names a node that is not there, and a failure leaves everything as it was.
Laying out a graph does nothing without nodes, ends as applying the answer does if the engine answers
and the token lasts, and leaves the graph as it was with every failure. -/
theorem layouts_written_wholly (text : String) (scale : Pair) (programs : String → Engine)
    (choice : Choice) (w : Workplace) :
    (∀ f w', (apply text scale).perform w = (.error f, w') →
      w' = w ∧ ((∃ e, f = .malformed e) ∨ ∃ id, f = .unknownNode id)) ∧
    ((∃ e w', (apply text scale).perform w = (.error (.malformed e), w')) ↔
      ¬ ∃ plain, Plain.parse text = .ok plain) ∧
    ((∃ plain, Plain.parse text = .ok plain) →
      ((∃ id w', (apply text scale).perform w = (.error (.unknownNode id), w')) ↔
        ∃ line ∈ Text.lines text, ∃ id place, Describes line (.node id place) ∧
          w.graph.node? id = none)) ∧
    (∀ w', (apply text scale).perform w = (.ok (), w') → Applied text scale w.graph w'.graph) ∧
    (∀ f w', (layOut programs choice).perform w = (.error f, w') → w'.graph = w.graph) ∧
    (∀ w', (layOut programs choice).perform w = (.ok (), w') →
      w.graph.isEmpty = true ∧ w' = w ∨
        ∃ c text, w.session.settingsOrDefaults.1 = .ok c ∧
          choice.engineOr programs c.layout
            (describe w.graph (choice.optionsOr c.layout).rankDir) = .ok text ∧
          Applied text (choice.optionsOr c.layout).scale w.graph w'.graph) ∧
    ∀ c text before after, w.graph.isEmpty = false →
      w.session.settingsOrDefaults.1 = .ok c → w.token.check = some before →
      choice.engineOr programs c.layout
        (describe w.graph (choice.optionsOr c.layout).rankDir) = .ok text →
      before.check = some after →
      ((layOut programs choice).perform w).1 =
        ((apply text (choice.optionsOr c.layout).scale).perform w).1 := by
  refine ⟨?_, apply_malformed_iff text scale w, ?_, ?_, ?_, ?_, ?_⟩
  · intro f w' h
    exact apply_unchanged h
  · intro hread
    exact apply_unknown_iff hread scale w
  · intro w' h
    exact apply_applied h
  · intro f w' h
    exact layOut_unchanged h
  · intro w' h
    exact layOut_applied h
  · intro c text before after hnodes hsettings hbefore hanswer hafter
    exact layOut_answered hnodes hsettings hbefore hanswer hafter

end Work

end Layout

end CallAtlas
