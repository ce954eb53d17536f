import CallAtlas.Proofs.Loading
import CallAtlas.Proofs.TextStreams

/-!
# Values of a settings file

The values of the options of a settings file consist of characters of its text and of the line feeds
between their lines.  So a text without a percent sign has no references in it.
-/

namespace CallAtlas

namespace Text

theorem mem_of_mem_trimEnd {c : Char} {s : List Char} (h : c ∈ trimEnd s) : c ∈ s := by
  rw [trimEnd, List.mem_reverse] at h
  exact List.mem_reverse.1 ((List.dropWhile_sublist _).mem h)

theorem mem_of_mem_trimChars {c : Char} {s : List Char} (h : c ∈ trimChars s) : c ∈ s :=
  (List.dropWhile_sublist _).mem (mem_of_mem_trimEnd h)

end Text

namespace Settings.Ini

variable {P : Char → Prop}

def LinesDrawn (P : Char → Prop) (lines : List String) : Prop :=
  ∀ line ∈ lines, ∀ c ∈ line.toList, P c

def DraftDrawn (P : Char → Prop) (d : Draft) : Prop := ∀ entry ∈ d, LinesDrawn P entry.2

def Reader.Drawn (P : Char → Prop) (r : Reader) : Prop := ∀ entry ∈ r.sections, DraftDrawn P entry.2

theorem draftDrawn_putLines {d : Draft} (hd : DraftDrawn P d) (name : String)
    {change : List String → List String}
    (hchange : ∀ lines, LinesDrawn P lines → LinesDrawn P (change lines)) :
    DraftDrawn P (putLines name change d) := by
  induction d with
  | nil =>
      intro entry hentry
      obtain rfl := List.mem_singleton.1 hentry
      exact hchange [] fun _ h => absurd h List.not_mem_nil
  | cons entry d ih =>
      obtain ⟨hentry, hd⟩ := List.forall_mem_cons.1 hd
      rw [putLines]
      split
      · exact List.forall_mem_cons.2 ⟨hchange _ hentry, hd⟩
      · exact List.forall_mem_cons.2 ⟨hentry, ih hd⟩

theorem drawn_putSection {sections : List (String × Draft)}
    (hsections : ∀ entry ∈ sections, DraftDrawn P entry.2) (name : String) {change : Draft → Draft}
    (hchange : ∀ d, DraftDrawn P d → DraftDrawn P (change d)) :
    ∀ entry ∈ putSection name change sections, DraftDrawn P entry.2 := by
  induction sections with
  | nil =>
      intro entry hentry
      obtain rfl := List.mem_singleton.1 hentry
      exact hchange [] fun _ h => absurd h List.not_mem_nil
  | cons entry sections ih =>
      obtain ⟨hentry, hsections⟩ := List.forall_mem_cons.1 hsections
      rw [putSection]
      split
      · exact List.forall_mem_cons.2 ⟨hchange _ hentry, hsections⟩
      · exact List.forall_mem_cons.2 ⟨hentry, ih hsections⟩

variable {r next : Reader}

theorem Reader.Drawn.continueValue (hr : r.Drawn P) {line : String} (hline : ∀ c ∈ line.toList, P c) :
    (r.continueValue line).Drawn P := by
  unfold Reader.continueValue
  split
  · apply drawn_putSection hr
    intro d hd
    apply draftDrawn_putLines hd
    intro lines hlines
    exact List.forall_mem_cons.2 ⟨hline, hlines⟩
  · exact hr

theorem Reader.Drawn.enter (hr : r.Drawn P) {name : String} (h : r.enter name = .ok next) :
    next.Drawn P := by
  unfold Reader.enter at h
  split at h
  · obtain rfl := Except.ok.inj h
    exact drawn_putSection hr name fun _ hd => hd
  · split at h
    · cases h
    · obtain rfl := Except.ok.inj h
      exact drawn_putSection hr name fun _ hd => hd

theorem Reader.Drawn.begin (hr : r.Drawn P) {sect name value : String}
    (hvalue : ∀ c ∈ value.toList, P c) (h : r.begin sect name value = .ok next) : next.Drawn P := by
  unfold Reader.begin at h
  split at h
  · cases h
  · obtain rfl := Except.ok.inj h
    apply drawn_putSection hr
    intro d hd
    apply draftDrawn_putLines hd
    intro _ _ line hline
    obtain rfl := List.mem_singleton.1 hline
    exact hvalue

theorem option?_drawn {line : List Char} (hline : ∀ c ∈ line, P c) {name value : String}
    (h : option? line = some (name, value)) : ∀ c ∈ value.toList, P c := by
  unfold option? at h
  split at h
  · next d rest hrest =>
      obtain ⟨-, rfl⟩ := Prod.mk.inj (Option.some.inj h)
      intro c hc
      rw [String.toList_ofList] at hc
      apply hline
      have hmem : c ∈ line.dropWhile fun c => !isDelimiter c := by
        rw [hrest]
        exact List.mem_cons_of_mem _ (Text.mem_of_mem_trimChars hc)
      exact (List.dropWhile_sublist _).mem hmem
  · cases h

/-- Reading a line adds no characters but those of the line. -/
theorem Reader.Drawn.step (hr : r.Drawn P) {line : List Char} (hline : ∀ c ∈ line, P c)
    (h : r.step line = .ok next) : next.Drawn P := by
  have hvalue : ∀ c ∈ Text.trimChars line, P c := fun c hc => hline c (Text.mem_of_mem_trimChars hc)
  obtain ⟨read, hread, h⟩ := bind_ok h
  obtain rfl := Except.ok.inj h
  suffices read.Drawn P from this
  -- The line is a comment, blank, a continuation, or else a section header or an option.
  unfold Reader.line at hread
  simp only at hread
  split at hread
  · obtain rfl := Except.ok.inj hread
    exact hr
  split at hread
  · obtain rfl := Except.ok.inj hread
    exact hr.continueValue fun c hc => absurd hc List.not_mem_nil
  split at hread
  · obtain rfl := Except.ok.inj hread
    exact hr.continueValue (by simpa using hvalue)
  have hr' : Reader.Drawn P { r with indent := (line.takeWhile Text.isBlank).length } := hr
  split at hread
  · exact hr'.enter hread
  · cases hread
  · split at hread
    · next hoption =>
        apply Reader.Drawn.begin _ (option?_drawn hvalue hoption) hread
        split <;> exact hr
    · obtain rfl := Except.ok.inj hread
      exact hr

theorem readLines_drawn {lines : List (List Char)} (hlines : ∀ line ∈ lines, ∀ c ∈ line, P c)
    (h : readLines lines = .ok next) : next.Drawn P := by
  have hstart : Reader.Drawn P .start := fun _ h => absurd h List.not_mem_nil
  unfold readLines at h
  -- Of the first position only the invariant is used, so that the rest of the lines can start later.
  generalize Reader.start = r at h hstart
  induction lines generalizing r with
  | nil =>
      obtain rfl := Except.ok.inj h
      exact hstart
  | cons line lines ih =>
      obtain ⟨hline, hlines⟩ := List.forall_mem_cons.1 hlines
      rw [List.foldlM_cons] at h
      obtain ⟨read, hread, h⟩ := bind_ok h
      exact ih hlines read h (hstart.step hline hread)

theorem joinLines_drawn {lines : List String} (hlines : LinesDrawn P lines) (hnewline : P '\n') :
    ∀ c ∈ (joinLines lines).toList, P c := by
  intro c hc
  rw [joinLines, String.toList_ofList] at hc
  rcases Text.mem_intercalate (Text.mem_of_mem_trimEnd hc) with hc | ⟨line, hline, hc⟩
  · obtain rfl := List.mem_singleton.1 hc
    exact hnewline
  · exact hlines line (List.mem_reverse.1 hline) c hc

theorem options_drawn {d : Draft} (hd : DraftDrawn P d) (hnewline : P '\n') :
    ∀ option ∈ d.map fun (n, lines) => (n, joinLines lines), ∀ c ∈ option.2.toList, P c := by
  intro option hoption
  obtain ⟨entry, hentry, rfl⟩ := List.mem_map.1 hoption
  exact joinLines_drawn (hd entry hentry) hnewline

/-- The values of a settings file that can be read consist of characters of its lines and line feeds. -/
theorem read_drawn {lines : List (List Char)} {ini : Ini} (h : read lines = .ok ini)
    (hnewline : P '\n') (hlines : ∀ line ∈ lines, ∀ c ∈ line, P c) :
    (∀ option ∈ ini.defaults, ∀ c ∈ option.2.toList, P c) ∧
      ∀ entry ∈ ini.sections, ∀ option ∈ entry.2, ∀ c ∈ option.2.toList, P c := by
  obtain ⟨r, hr, h⟩ := bind_ok h
  have hdrawn := readLines_drawn hlines hr
  unfold Reader.finish at h
  split at h
  · cases h
  · obtain rfl := Except.ok.inj h
    refine ⟨?_, ?_⟩
    · cases hdefaults : r.sections.lookup defaultSection with
      | none => exact fun option hoption => absurd hoption List.not_mem_nil
      | some d => exact options_drawn (hdrawn _ (mem_of_lookup hdefaults)) hnewline
    · intro entry hentry
      obtain ⟨sect, hsect, rfl⟩ := List.mem_map.1 hentry
      exact options_drawn (hdrawn sect (List.mem_of_mem_filter hsect)) hnewline

/-- A character of a value stands in the text of its settings file. -/
theorem mem_text_of_mem_value {text : List Char} {ini : Ini}
    (h : read (Text.fileLines text) = .ok ini) {sect name raw : String} {options : Options}
    (hscope : ini.scope? sect = some options) (hlookup : options.lookup name = some raw) {c : Char}
    (hc : c ∈ raw.toList) (hne : c ≠ '\n') : c ∈ text := by
  obtain ⟨hdefaults, hsections⟩ :=
    read_drawn (P := fun c => c = '\n' ∨ c ∈ text) h (.inl rfl) fun line hline c hc => by
      by_cases hnewline : c = '\n'
      · exact .inl hnewline
      · exact .inr (Text.mem_of_mem_fileLines hline hc hnewline)
  obtain ⟨own, hown, rfl⟩ := Option.map_eq_some_iff.1 hscope
  rcases List.mem_append.1 (mem_of_lookup hlookup) with hmem | hmem
  · exact (hsections _ (mem_of_lookup hown) _ hmem c hc).resolve_left hne
  · exact (hdefaults _ hmem c hc).resolve_left hne

end Settings.Ini

end CallAtlas
