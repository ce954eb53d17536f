import CallAtlas.Project.TestFile
import CallAtlas.Proofs.Paths

/-!
# Test files by their components

Whether a path belongs to the tests is found out by searches in its text.  Each of the searches
looks between slashes, so what they find together can be told from the components of the path: from
the directories it leads through and from the name at its end.
-/

namespace CallAtlas

namespace Text

variable {separator : Char} {s : List Char}

/-- Where the pieces of a text are cut in two, the text is cut at a separator. -/
theorem exists_cut_of_splitChars {front back : List (List Char)} (hfront : front ≠ [])
    (hback : back ≠ []) (h : splitChars separator s = front ++ back) :
    ∃ before after, s = before ++ separator :: after ∧
      splitChars separator before = front ∧ splitChars separator after = back := by
  induction s generalizing front with
  | nil =>
      have hlength := congrArg List.length h
      have hfront := List.length_pos_iff.2 hfront
      have hback := List.length_pos_iff.2 hback
      rw [splitChars, List.length_singleton, List.length_append] at hlength
      omega
  | cons c rest ih =>
      obtain ⟨first, front, rfl⟩ := List.exists_cons_of_ne_nil hfront
      rw [splitChars, List.cons_append] at h
      split at h
      · rename_i hc
        obtain ⟨rfl, hrest⟩ := List.cons.inj h
        by_cases hnil : front = []
        · rw [hnil, List.nil_append] at hrest
          exact ⟨[], rest, by rw [hc, List.nil_append], by rw [hnil, splitChars], hrest⟩
        · obtain ⟨before, after, rfl, hbefore, hafter⟩ := ih hnil hrest
          refine ⟨c :: before, after, rfl, ?_, hafter⟩
          rw [splitChars, if_pos hc, hbefore]
      · rename_i hc
        cases hpieces : splitChars separator rest with
        | nil => exact absurd hpieces (splitChars_ne_nil separator rest)
        | cons piece pieces =>
            rw [hpieces] at h
            obtain ⟨rfl, rfl⟩ := List.cons.inj h
            obtain ⟨before, after, rfl, hbefore, hafter⟩ :=
              ih (List.cons_ne_nil piece front) hpieces
            refine ⟨c :: before, after, rfl, ?_, hafter⟩
            rw [splitChars, if_neg hc, hbefore]

theorem splitChars_eq_singleton {piece : List Char} (h : splitChars separator s = [piece]) :
    s = piece ∧ separator ∉ piece := by
  have hmem : piece ∈ splitChars separator s := h ▸ List.mem_singleton_self piece
  refine ⟨?_, fun hseparator => (mem_of_mem_splitChars hmem hseparator).2 rfl⟩
  by_cases hs : separator ∈ s
  · obtain ⟨before, after, rfl⟩ := List.append_of_mem hs
    rw [splitChars_append] at h
    have hlength := congrArg List.length h
    have hbefore := List.length_pos_iff.2 (splitChars_ne_nil separator before)
    have hafter := List.length_pos_iff.2 (splitChars_ne_nil separator after)
    rw [List.length_append, List.length_singleton] at hlength
    omega
  · rw [splitChars_of_notMem hs] at h
    exact (List.cons.inj h).1

/-- A piece other than the last one stands between separators, or at the start and before one. -/
theorem mem_dropLast_splitChars {piece : List Char} (hpiece : separator ∉ piece) :
    piece ∈ (splitChars separator s).dropLast ↔
      (∃ after, s = piece ++ separator :: after) ∨
        ∃ before after, s = before ++ separator :: (piece ++ separator :: after) := by
  constructor
  · intro h
    obtain ⟨front, back, hpieces⟩ := List.append_of_mem h
    have hall := List.dropLast_append_getLast (splitChars_ne_nil separator s)
    rw [hpieces, List.append_assoc, List.cons_append] at hall
    have hstarts : ∀ {t : List Char} {rest : List (List Char)}, rest ≠ [] →
        splitChars separator t = piece :: rest → ∃ after, t = piece ++ separator :: after := by
      intro t rest hrest ht
      obtain ⟨before, after, rfl, hbefore, -⟩ :=
        exists_cut_of_splitChars (List.cons_ne_nil piece []) hrest ht
      exact ⟨after, by rw [(splitChars_eq_singleton hbefore).1]⟩
    have hback : back ++ [(splitChars separator s).getLast (splitChars_ne_nil separator s)] ≠ [] :=
      List.append_ne_nil_of_right_ne_nil _ (List.cons_ne_nil _ _)
    by_cases hfront : front = []
    · rw [hfront, List.nil_append] at hall
      exact .inl (hstarts hback hall.symm)
    · obtain ⟨before, rest, rfl, -, hrest⟩ :=
        exists_cut_of_splitChars hfront (List.cons_ne_nil _ _) hall.symm
      obtain ⟨after, rfl⟩ := hstarts hback hrest
      exact .inr ⟨before, after, rfl⟩
  · have hpieces : ∀ after : List Char,
        piece ∈ (splitChars separator (piece ++ separator :: after)).dropLast := by
      intro after
      rw [splitChars_append, List.dropLast_append_of_ne_nil (splitChars_ne_nil separator after),
        splitChars_of_notMem hpiece]
      exact List.mem_append_left _ (List.mem_singleton_self piece)
    rintro (⟨after, rfl⟩ | ⟨before, after, rfl⟩)
    · exact hpieces after
    · rw [splitChars_append, List.dropLast_append_of_ne_nil (splitChars_ne_nil separator _)]
      exact List.mem_append_right _ (hpieces after)

/-- The last piece stands after the last separator. -/
theorem getLast?_splitChars_iff {piece : List Char} :
    (splitChars separator s).getLast? = some piece ↔
      separator ∉ piece ∧ (s = piece ∨ ∃ before, s = before ++ separator :: piece) := by
  constructor
  · intro h
    obtain ⟨front, hpieces⟩ := List.getLast?_eq_some_iff.1 h
    by_cases hfront : front = []
    · rw [hfront, List.nil_append] at hpieces
      obtain ⟨hs, hpiece⟩ := splitChars_eq_singleton hpieces
      exact ⟨hpiece, .inl hs⟩
    · obtain ⟨before, after, rfl, -, hafter⟩ :=
        exists_cut_of_splitChars hfront (List.cons_ne_nil _ _) hpieces
      obtain ⟨rfl, hpiece⟩ := splitChars_eq_singleton hafter
      exact ⟨hpiece, .inr ⟨before, rfl⟩⟩
  · rintro ⟨hpiece, rfl | ⟨before, rfl⟩⟩
    · rw [splitChars_of_notMem hpiece]
      rfl
    · rw [splitChars_append, splitChars_of_notMem hpiece, List.getLast?_concat]

theorem endings_of_notMem (h : '\n' ∉ s) : endings s = [s] := by
  unfold endings
  split
  · rename_i rest hreverse
    refine absurd ?_ h
    rw [← List.mem_reverse, hreverse]
    exact List.mem_cons_self
  · rfl

end Text

namespace Project

open Text

section

variable {p : List Char → Bool} {s : List Char}

theorem atComponent_iff :
    atComponent p s = true ↔
      p s = true ∨ ∃ before rest, s = before ++ '/' :: rest ∧ p rest = true := by
  rw [atComponent, Bool.or_eq_true, anyTail_eq_true_iff]
  refine or_congr_right ⟨?_, ?_⟩
  · rintro ⟨before, tail, rfl, htail⟩
    split at htail
    · exact ⟨before, _, rfl, htail⟩
    · cases htail
  · rintro ⟨before, rest, rfl, hrest⟩
    exact ⟨before, _, rfl, hrest⟩

/-- A search for what holds no slash looks at the last piece only. -/
theorem atComponent_iff_last {name : List Char} (hlast : (splitChars '/' s).getLast? = some name)
    (slashless : ∀ rest, rest <:+ s → p rest = true → '/' ∉ rest) :
    atComponent p s = true ↔ p name = true := by
  rw [atComponent_iff]
  constructor
  · rintro (h | ⟨before, rest, rfl, h⟩)
    · have hslash := slashless s List.suffix_rfl h
      rw [splitChars_of_notMem hslash] at hlast
      exact Option.some.inj hlast ▸ h
    · have hslash := slashless rest ((List.suffix_cons _ _).trans (List.suffix_append _ _)) h
      rw [splitChars_append, splitChars_of_notMem hslash, List.getLast?_concat] at hlast
      exact Option.some.inj hlast ▸ h
  · intro h
    rcases (getLast?_splitChars_iff.1 hlast).2 with rfl | ⟨before, rfl⟩
    · exact .inl h
    · exact .inr ⟨before, name, rfl, h⟩

/-- An ending without a slash ends a text exactly if it ends the last piece. -/
theorem suffix_iff_last {name : List Char} (hlast : (splitChars '/' s).getLast? = some name)
    {ending : List Char} (slashless : '/' ∉ ending) : ending <:+ s ↔ ending <:+ name := by
  rcases (getLast?_splitChars_iff.1 hlast).2 with rfl | ⟨before, rfl⟩
  · rfl
  · constructor
    · -- the last piece with its slash ends the text too, and it is not the shorter one of the two
      intro h
      rcases List.suffix_or_suffix_of_suffix h (List.suffix_append before ('/' :: name)) with h | h
      · rcases List.suffix_cons_iff.1 h with rfl | h
        · exact absurd List.mem_cons_self slashless
        · exact h
      · exact absurd (h.subset List.mem_cons_self) slashless
    · exact fun h => h.trans ((List.suffix_cons _ _).trans (List.suffix_append _ _))

theorem startsTestDirectory_iff :
    startsTestDirectory s = true ↔
      ∃ directory ∈ ["test".toList, "tests".toList], ∃ after, s = directory ++ '/' :: after := by
  have hcut : ∀ directory : List Char, (directory ++ ['/']).isPrefixOf s = true ↔
      ∃ after, s = directory ++ '/' :: after := by
    intro directory
    rw [List.isPrefixOf_iff_prefix]
    refine exists_congr fun after => ?_
    rw [List.append_assoc, List.singleton_append, eq_comm]
  rw [startsTestDirectory, Bool.or_eq_true]
  simp only [List.mem_cons, List.not_mem_nil, or_false, exists_eq_or_imp, exists_eq_left]
  exact or_congr (hcut "test".toList) (hcut "tests".toList)

theorem atComponent_startsTestDirectory :
    atComponent startsTestDirectory s = true ↔
      ∃ directory ∈ (splitChars '/' s).dropLast,
        directory ∈ ["test".toList, "tests".toList] := by
  have hmem : ∀ directory ∈ ["test".toList, "tests".toList],
      (directory ∈ (splitChars '/' s).dropLast ↔
        (∃ after, s = directory ++ '/' :: after) ∨
          ∃ before after, s = before ++ '/' :: (directory ++ '/' :: after)) := by
    have hslash : ∀ directory ∈ ["test".toList, "tests".toList], '/' ∉ directory := by decide
    exact fun directory hdirectory => mem_dropLast_splitChars (hslash directory hdirectory)
  rw [atComponent_iff]
  simp only [startsTestDirectory_iff]
  constructor
  · rintro (⟨directory, hdirectory, h⟩ | ⟨before, rest, rfl, directory, hdirectory, after, rfl⟩)
    · exact ⟨directory, (hmem directory hdirectory).2 (.inl h), hdirectory⟩
    · exact ⟨directory, (hmem directory hdirectory).2 (.inr ⟨before, after, rfl⟩), hdirectory⟩
  · rintro ⟨directory, hpiece, hdirectory⟩
    rcases (hmem directory hdirectory).1 hpiece with h | ⟨before, after, rfl⟩
    · exact .inl ⟨directory, hdirectory, h⟩
    · exact .inr ⟨before, _, rfl, directory, hdirectory, after, rfl⟩

theorem isTestName_iff (hline : '\n' ∉ s) :
    isTestName s = true ↔ '/' ∉ s ∧ ∃ middle ending, middle ≠ [] ∧ ending ∈ sourceEndings ∧
      s = "test_".toList ++ (middle ++ ending) := by
  have hstart : '/' ∉ "test_".toList := by decide
  unfold isTestName
  cases hafter : after? "test_".toList s with
  | none =>
      refine ⟨fun h => absurd h Bool.false_ne_true, ?_⟩
      rintro ⟨-, middle, ending, -, -, hs⟩
      rw [(after?_eq_some_iff _ _ _).2 hs] at hafter
      cases hafter
  | some rest =>
      obtain rfl := (after?_eq_some_iff _ _ _).1 hafter
      have hrest : '\n' ∉ rest := fun h => hline (List.mem_append_right _ h)
      have hslash : '/' ∉ "test_".toList ++ rest ↔ '/' ∉ rest := by
        rw [List.mem_append, not_or, and_iff_right hstart]
      simp only [endings_of_notMem hrest, List.any_cons, List.any_nil, Bool.or_false,
        Bool.and_eq_true, Bool.not_eq_true', List.any_eq_true, List.isSuffixOf_iff_suffix,
        decide_eq_true_eq, hslash, List.append_cancel_left_eq, List.contains_eq_mem,
        decide_eq_false_iff_not]
      refine and_congr_right fun _ => ⟨?_, ?_⟩
      · rintro ⟨ending, hending, ⟨middle, rfl⟩, hlength⟩
        refine ⟨middle, ending, ?_, hending, rfl⟩
        rintro rfl
        exact absurd hlength (lt_irrefl _)
      · rintro ⟨middle, ending, hmiddle, hending, rfl⟩
        refine ⟨ending, hending, List.suffix_append _ _, ?_⟩
        have hpos := List.length_pos_iff.2 hmiddle
        rw [List.length_append]
        omega

theorem endsTestName_iff (hline : '\n' ∉ s) :
    endsTestName s = true ↔ ∃ ending ∈ sourceEndings, "_test".toList ++ ending <:+ s := by
  simp only [endsTestName, endings_of_notMem hline, List.any_cons, List.any_nil, Bool.or_false,
    List.any_eq_true, List.isSuffixOf_iff_suffix]

theorem isTestSetup_iff (hline : '\n' ∉ s) :
    isTestSetup s = true ↔ s = "conftest.py".toList := by
  simp only [isTestSetup, endings_of_notMem hline, List.any_cons, List.any_nil, Bool.or_false,
    beq_iff_eq]

end

def IsSourceEnding (ending : String) : Prop := ending = ".py" ∨ ending = ".pyi"

/-- A name that only files of tests have. -/
inductive IsTestFileName (name : String) : Prop where
  | started (middle ending : String) (nonempty : middle ≠ "") (source : IsSourceEnding ending)
      (eq : name = "test_" ++ middle ++ ending)
  | ended (start ending : String) (source : IsSourceEnding ending)
      (eq : name = start ++ "_test" ++ ending)
  | setup (eq : name = "conftest.py")

/-- The components of a path that leads through a directory of tests or to a file of tests. -/
def LeadsToTests (components : List String) : Prop :=
  (∃ directory ∈ components.dropLast, directory = "test" ∨ directory = "tests") ∨
    ∃ name, components.getLast? = some name ∧ IsTestFileName name

theorem ofList_mem_sourceEndings {ending : List Char} :
    ending ∈ sourceEndings ↔ IsSourceEnding (String.ofList ending) := by
  simp [sourceEndings, IsSourceEnding, ← String.toList_inj]

/-- A name without slashes and line feeds is that of a file of tests exactly if one of the searches
for names finds it. -/
theorem isTestFileName_iff {name : List Char} (hslash : '/' ∉ name) (hline : '\n' ∉ name) :
    IsTestFileName (String.ofList name) ↔
      isTestName name = true ∨ endsTestName name = true ∨ isTestSetup name = true := by
  rw [isTestName_iff hline, endsTestName_iff hline, isTestSetup_iff hline]
  constructor
  · rintro (⟨middle, ending, hmiddle, hsource, hname⟩ | ⟨start, ending, hsource, hname⟩ | hname)
    all_goals have hname := congrArg String.toList hname
    · refine .inl ⟨hslash, middle.toList, ending.toList, by simpa using hmiddle, ?_, ?_⟩
      · rwa [ofList_mem_sourceEndings, String.ofList_toList]
      · simpa using hname
    · refine .inr (.inl ⟨ending.toList, ?_, start.toList, ?_⟩)
      · rwa [ofList_mem_sourceEndings, String.ofList_toList]
      · simpa using hname.symm
    · exact .inr (.inr (by simpa using hname))
  · rintro (⟨-, middle, ending, hmiddle, hending, rfl⟩ | ⟨ending, hending, start, rfl⟩ | rfl)
    · refine .started (String.ofList middle) _ (by simpa using hmiddle)
        (ofList_mem_sourceEndings.1 hending) ?_
      rw [String.ofList_append, String.ofList_append, String.ofList_toList, String.append_assoc]
    · refine .ended (String.ofList start) _ (ofList_mem_sourceEndings.1 hending) ?_
      rw [String.ofList_append, String.ofList_append, String.ofList_toList, String.append_assoc]
    · exact .setup rfl

/-- The searches for names look at the last piece of a path only. -/
theorem searches_iff_last {s name : List Char} (hline : '\n' ∉ s)
    (hlast : (splitChars '/' s).getLast? = some name) :
    (atComponent isTestName s = true ↔ isTestName name = true) ∧
    (endsTestName s = true ↔ endsTestName name = true) ∧
    (atComponent isTestSetup s = true ↔ isTestSetup name = true) := by
  have hlines : ∀ rest, rest <:+ s → '\n' ∉ rest := fun rest hrest hc => hline (hrest.subset hc)
  have hslash : '/' ∉ name := (getLast?_splitChars_iff.1 hlast).1
  have hname : name <:+ s := (suffix_iff_last hlast hslash).2 List.suffix_rfl
  refine ⟨atComponent_iff_last hlast ?_, ?_, atComponent_iff_last hlast ?_⟩
  · intro rest hrest h
    exact ((isTestName_iff (hlines rest hrest)).1 h).1
  · have hending : ∀ ending ∈ sourceEndings, '/' ∉ "_test".toList ++ ending := by decide
    rw [endsTestName_iff hline, endsTestName_iff (hlines name hname)]
    exact exists_congr fun ending => and_congr_right fun hmem =>
      suffix_iff_last hlast (hending ending hmem)
  · intro rest hrest h
    rw [(isTestSetup_iff (hlines rest hrest)).1 h]
    decide

/-- A path without line feeds belongs to the tests exactly if one of its directories is `test` or
`tests` or its last component is the name of a file of tests. -/
theorem isTestFile_iff_components {path : String} (hline : '\n' ∉ path.toList) :
    isTestFile path = true ↔ LeadsToTests (Path.components path) := by
  obtain ⟨name, hlast⟩ : ∃ name, (splitChars '/' path.toList).getLast? = some name :=
    ⟨_, List.getLast?_eq_some_getLast (splitChars_ne_nil '/' path.toList)⟩
  have hname := List.mem_of_getLast? hlast
  have hslash : '/' ∉ name := fun hc => (mem_of_mem_splitChars hname hc).2 rfl
  have hnameline : '\n' ∉ name := fun hc => hline (mem_of_mem_splitChars hname hc).1
  obtain ⟨hstarted, hended, hsetup⟩ := searches_iff_last hline hlast
  have hdirectories : atComponent startsTestDirectory path.toList = true ↔
      ∃ directory ∈ (Path.components path).dropLast, directory = "test" ∨ directory = "tests" := by
    rw [atComponent_startsTestDirectory, Path.components, split, ← List.map_dropLast]
    simp only [List.mem_map, exists_exists_and_eq_and, List.mem_cons, List.not_mem_nil, or_false]
    simp only [← String.toList_inj, String.toList_ofList]
  have hnames : (∃ name, (Path.components path).getLast? = some name ∧ IsTestFileName name) ↔
      IsTestFileName (String.ofList name) := by
    rw [Path.components, split, List.getLast?_map, hlast]
    simp
  rw [LeadsToTests, hnames, isTestFileName_iff hslash hnameline, ← hstarted, ← hended, ← hsetup,
    ← hdirectories, isTestFile]
  simp only [Bool.or_eq_true, or_assoc]

/-- Names that only resemble those of tests do not count, but a directory of tests does. -/
theorem isTestFile_iff_components_latest :
    '\n' ∉ "latest/contest.py".toList ∧ ¬ LeadsToTests ["latest", "contest.py"] ∧
      '\n' ∉ "a/tests/b.txt".toList ∧ LeadsToTests ["a", "tests", "b.txt"] := by
  have hlatest : '\n' ∉ "latest/contest.py".toList := by decide
  have htests : '\n' ∉ "a/tests/b.txt".toList := by decide
  refine ⟨hlatest, fun h => ?_, htests, ?_⟩
  · exact absurd ((isTestFile_iff_components hlatest).2 h) (by decide)
  · exact (isTestFile_iff_components htests).1 (by decide)

end Project

end CallAtlas
