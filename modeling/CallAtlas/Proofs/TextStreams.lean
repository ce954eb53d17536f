import CallAtlas.Proofs.Paths
import CallAtlas.Text.Stream

/-!
# Lines of a text file

However a file is cut into portions, the lines that are given out are those of its text.  If its
bytes are no text, the lines are given out that the portions complete before the first one in which
this shows.
-/

namespace CallAtlas.Text

namespace Utf8

variable {first : UInt8} {rest after bytes : List UInt8} {text : List Char}

theorem continuation_append {least greatest count value n : Nat}
    (h : continuation least greatest count value rest = (some n, after)) (more : List UInt8) :
    continuation least greatest count value (rest ++ more) = (some n, after ++ more) := by
  fun_induction continuation least greatest count value rest with
  | case1 =>
      obtain ⟨hvalue, rfl⟩ := Prod.mk.inj h
      rw [continuation, hvalue]
  | case2 => cases h
  | case3 _ _ _ _ _ _ hbyte ih =>
      rw [List.cons_append, continuation, if_pos hbyte]
      exact ih h
  | case4 => cases h

/-- A byte that cannot continue a character stays where it is. -/
theorem continuation_append_of_none {least greatest count value : Nat} {b : UInt8}
    (h : continuation least greatest count value rest = (none, b :: after)) (more : List UInt8) :
    continuation least greatest count value (rest ++ more) = (none, b :: after ++ more) := by
  fun_induction continuation least greatest count value rest with
  | case1 => cases h
  | case2 => cases h
  | case3 _ _ _ _ _ _ hbyte ih =>
      rw [List.cons_append, continuation, if_pos hbyte]
      exact ih h
  | case4 _ _ _ _ _ _ hbyte =>
      obtain ⟨-, hrest⟩ := Prod.mk.inj h
      rw [List.cons_append, continuation, if_neg hbyte, ← hrest]
      rfl

theorem continuation_length (least greatest count value : Nat) (rest : List UInt8) :
    (continuation least greatest count value rest).2.length ≤ rest.length := by
  fun_induction continuation least greatest count value rest with
  | case1 => exact Nat.le_refl _
  | case2 => exact Nat.le_refl _
  | case3 _ _ _ _ _ _ _ ih => exact Nat.le_succ_of_le ih
  | case4 => exact Nat.le_refl _

theorem step_append {n : Nat} (h : step first rest = (some n, after)) (more : List UInt8) :
    step first (rest ++ more) = (some n, after ++ more) := by
  unfold step at h ⊢
  dsimp only at h ⊢
  split at h
  · rename_i hascii
    obtain ⟨hn, rfl⟩ := Prod.mk.inj h
    rw [if_pos hascii, hn]
  · rename_i hascii
    rw [if_neg hascii]
    split at h
    · cases h
    · exact continuation_append h more

theorem step_length (first : UInt8) (rest : List UInt8) :
    (step first rest).2.length ≤ rest.length := by
  unfold step
  dsimp only
  split
  · exact Nat.le_refl _
  · split
    · exact Nat.le_refl _
    · exact continuation_length ..

theorem step_of_second?_eq_none (hascii : ¬ first.toNat < 0x80)
    (hsecond : second? first.toNat = none) (rest : List UInt8) : step first rest = (none, rest) := by
  unfold step
  dsimp only
  rw [if_neg hascii, hsecond]

theorem step_eq_continuation {least greatest count : Nat} (hascii : ¬ first.toNat < 0x80)
    (hsecond : second? first.toNat = some (least, greatest, count)) :
    ∃ value, ∀ rest, step first rest = continuation least greatest count value rest := by
  refine ⟨first.toNat % (if count = 1 then 32 else if count = 2 then 16 else 8), fun rest => ?_⟩
  unfold step
  dsimp only
  rw [if_neg hascii, hsecond]

/-- An error inside some bytes stays what it is, whatever bytes follow. -/
theorem step_append_of_none (h : (step first rest).1 = none)
    (hreason : reasonAt first rest ≠ .endOfData) (more : List UInt8) :
    (step first (rest ++ more)).1 = none ∧
      reasonAt first (rest ++ more) = reasonAt first rest := by
  have hascii : ¬ first.toNat < 0x80 := by
    intro hascii
    rw [step, if_pos hascii] at h
    cases h
  unfold reasonAt at hreason ⊢
  cases hsecond : second? first.toNat with
  | none => exact ⟨by rw [step_of_second?_eq_none hascii hsecond], rfl⟩
  | some bounds =>
      obtain ⟨least, greatest, count⟩ := bounds
      obtain ⟨value, hstep⟩ := step_eq_continuation hascii hsecond
      rw [hsecond, hstep] at hreason
      rw [hstep] at h
      cases hafter : continuation least greatest count value rest with
      | mk result after =>
          rw [hafter] at h hreason
          obtain rfl : result = none := h
          cases after with
          | nil => exact absurd rfl hreason
          | cons b after =>
              rw [hstep, hstep, continuation_append_of_none hafter more, hafter]
              exact ⟨rfl, rfl⟩

theorem readFrom_done (fuel : Nat) (bytes : List UInt8) (done : List Char) :
    readFrom fuel bytes done =
      (done.reverse ++ (readFrom fuel bytes []).1, (readFrom fuel bytes []).2) := by
  induction fuel generalizing bytes done with
  | zero => rw [readFrom, readFrom, List.reverse_nil, List.append_nil]
  | succ fuel ih =>
      cases bytes with
      | nil => rw [readFrom, readFrom, List.reverse_nil, List.append_nil]
      | cons b rest =>
          rw [readFrom, readFrom]
          split
          · rename_i n after _
            rw [ih after (Char.ofNat n :: done), ih after [Char.ofNat n], List.reverse_cons,
              List.append_assoc]
            rfl
          · rw [List.reverse_nil, List.append_nil]

/-- Any amount of fuel that is enough gives the same. -/
theorem readFrom_fuel {fuel fuel' : Nat} (hfuel : bytes.length ≤ fuel)
    (hfuel' : bytes.length ≤ fuel') (done : List Char) :
    readFrom fuel bytes done = readFrom fuel' bytes done := by
  induction fuel generalizing fuel' bytes done with
  | zero =>
      obtain rfl := List.length_eq_zero_iff.1 (Nat.le_zero.1 hfuel)
      cases fuel' <;> rfl
  | succ fuel ih =>
      cases bytes with
      | nil => cases fuel' <;> rfl
      | cons b rest =>
          obtain ⟨fuel', rfl⟩ := Nat.exists_eq_add_one_of_ne_zero (Nat.ne_zero_of_lt hfuel')
          rw [readFrom, readFrom]
          split
          · rename_i n after hstep
            have hlength := step_length b rest
            rw [hstep] at hlength
            exact ih (hlength.trans (Nat.le_of_succ_le_succ hfuel))
              (hlength.trans (Nat.le_of_succ_le_succ hfuel')) _
          · rfl

theorem upToError_nil : upToError [] = ([], []) := rfl

theorem upToError_of_some {n : Nat} (h : step first rest = (some n, after)) :
    upToError (first :: rest) = (Char.ofNat n :: (upToError after).1, (upToError after).2) := by
  have hlength := step_length first rest
  rw [h] at hlength
  rw [upToError, List.length_cons, readFrom, h]
  dsimp only
  rw [readFrom_done, readFrom_fuel hlength (Nat.le_refl _)]
  rfl

theorem upToError_of_none (h : (step first rest).1 = none) :
    upToError (first :: rest) = ([], first :: rest) := by
  rw [upToError, List.length_cons, readFrom]
  split
  · rename_i n after hstep
    rw [hstep] at h
    cases h
  · rfl

/-- Bytes are empty, begin with an error, or begin with a character. -/
@[elab_as_elim]
theorem character_induction {P : List UInt8 → Prop} (bytes : List UInt8) (empty : P [])
    (error : ∀ first rest, (step first rest).1 = none → P (first :: rest))
    (character : ∀ first rest n after, step first rest = (some n, after) → P after →
      P (first :: rest)) : P bytes := by
  induction hlength : bytes.length using Nat.strongRecOn generalizing bytes with
  | _ length ih =>
      cases bytes with
      | nil => exact empty
      | cons b tail =>
          cases hstep : step b tail with
          | mk result after =>
              cases result with
              | none => exact error b tail (by rw [hstep])
              | some n =>
                  have hafter := step_length b tail
                  rw [hstep] at hafter
                  exact character b tail n after hstep
                    (ih after.length (hlength ▸ Nat.lt_succ_of_le hafter) after rfl)

/-- Bytes are read up to an error. -/
theorem step_of_upToError (h : (upToError bytes).2 = first :: rest) : (step first rest).1 = none := by
  induction bytes using character_induction with
  | empty => cases h
  | error b tail hstep =>
      rw [upToError_of_none hstep] at h
      obtain ⟨rfl, rfl⟩ := List.cons.inj h
      exact hstep
  | character b tail n after hstep ih =>
      rw [upToError_of_some hstep] at h
      exact ih h

/-- Reading may stop anywhere and go on with what has been left. -/
theorem upToError_append (bytes more : List UInt8) :
    upToError (bytes ++ more) =
      ((upToError bytes).1 ++ (upToError ((upToError bytes).2 ++ more)).1,
        (upToError ((upToError bytes).2 ++ more)).2) := by
  induction bytes using character_induction with
  | empty => rfl
  | error b tail hstep =>
      rw [upToError_of_none hstep]
      rfl
  | character b tail n after hstep ih =>
      rw [upToError_of_some hstep, List.cons_append, upToError_of_some (step_append hstep more), ih]
      rfl

/-- An error that is judged at once is the first one, whatever bytes follow. -/
theorem upToError_append_of_error (h : upToError bytes = (text, first :: rest))
    (hreason : reasonAt first rest ≠ .endOfData) (more : List UInt8) :
    upToError (bytes ++ more) = (text, first :: rest ++ more) := by
  have hstep : (step first rest).1 = none := step_of_upToError (congrArg Prod.snd h)
  rw [upToError_append, h, List.cons_append,
    upToError_of_none (step_append_of_none hstep hreason more).1, List.append_nil]

theorem strict_eq_ok_iff : strict bytes = .ok text ↔ upToError bytes = (text, []) := by
  unfold strict
  split
  · rename_i text' h
    rw [h, Except.ok.injEq, Prod.mk.injEq, and_iff_left rfl]
  · rename_i h
    rw [h]
    constructor
    · intro h
      cases h
    · intro h
      cases h

/-- Bytes in which no error is judged before more bytes are known. -/
def BeginsText (bytes : List UInt8) : Prop :=
  ∀ first rest, (upToError bytes).2 = first :: rest → isOpen first rest = true

theorem beginsText_append (bytes more : List UInt8) :
    BeginsText (bytes ++ more) ↔ BeginsText ((upToError bytes).2 ++ more) := by
  rw [BeginsText, BeginsText, upToError_append]

theorem isOpen_of_endOfData (h : reasonAt first rest = .endOfData) : isOpen first rest = true := by
  unfold isOpen
  rw [h]
  rfl

/-- An error that is judged is still judged when more bytes are known. -/
theorem isOpen_append (h : (step first rest).1 = none) (closed : isOpen first rest = false)
    (more : List UInt8) : isOpen first (rest ++ more) = false := by
  have hreason : reasonAt first rest ≠ .endOfData := by
    intro hreason
    rw [isOpen_of_endOfData hreason] at closed
    cases closed
  unfold isOpen at closed ⊢
  rw [(step_append_of_none h hreason more).2]
  rw [Bool.or_eq_false_iff] at closed ⊢
  refine ⟨closed.1, ?_⟩
  match rest, more with
  | [], more =>
      -- The first byte of a surrogate alone breaks off inside a character.
      have hfirst : first ≠ 0xed := by
        rintro rfl
        exact hreason rfl
      split
      · rw [beq_false_of_ne hfirst]
        rfl
      · rfl
  | [second], [] => exact closed.2
  | [_], _ :: _ => rfl
  | _ :: _ :: _, _ => rfl

theorem BeginsText.of_append {more : List UInt8} (h : BeginsText (bytes ++ more)) :
    BeginsText bytes := by
  intro first rest hrest
  by_contra hclosed
  have hreason : reasonAt first rest ≠ .endOfData := fun h => hclosed (isOpen_of_endOfData h)
  have hbytes : upToError bytes = ((upToError bytes).1, first :: rest) := by rw [← hrest]
  have hopen := h first (rest ++ more) (by rw [upToError_append_of_error hbytes hreason]; rfl)
  rw [isOpen_append (step_of_upToError hrest) (Bool.eq_false_iff.2 hclosed)] at hopen
  cases hopen

theorem beginsText_of_strict (h : strict bytes = .ok text) : BeginsText bytes := by
  intro first rest hrest
  rw [strict_eq_ok_iff.1 h] at hrest
  cases hrest

theorem begun_of_beginsText (h : BeginsText bytes) : begun bytes = .ok (upToError bytes) := by
  unfold begun
  split
  · rename_i hread
    rw [hread]
  · rename_i first rest hread
    rw [if_pos (h first rest (by rw [hread])), hread]

theorem begun_of_not_beginsText (h : ¬ BeginsText bytes) : ∃ f, begun bytes = .error f := by
  unfold begun
  split
  · rename_i hread
    refine absurd (fun first rest hrest => ?_) h
    rw [hread] at hrest
    cases hrest
  · rename_i first rest hread
    split
    · rename_i hopen
      refine absurd (fun first' rest' hrest => ?_) h
      rw [hread] at hrest
      obtain ⟨rfl, rfl⟩ := List.cons.inj hrest
      exact hopen
    · exact ⟨_, rfl⟩

end Utf8

/-! ## Parts of a text -/

theorem mem_of_mem_unifyLineEnds {c : Char} {s : List Char} (h : c ∈ unifyLineEnds s)
    (hc : c ≠ '\n') : c ∈ s := by
  fun_induction unifyLineEnds s with
  | case1 => exact h
  | case2 rest ih =>
      rcases List.mem_cons.1 h with rfl | h
      · exact absurd rfl hc
      · exact List.mem_cons_of_mem _ (List.mem_cons_of_mem _ (ih h))
  | case3 rest _ ih =>
      rcases List.mem_cons.1 h with rfl | h
      · exact absurd rfl hc
      · exact List.mem_cons_of_mem _ (ih h)
  | case4 d rest _ _ ih =>
      rcases List.mem_cons.1 h with rfl | h
      · exact List.mem_cons_self
      · exact List.mem_cons_of_mem _ (ih h)

theorem mem_of_mem_fileLines {c : Char} {text line : List Char} (hline : line ∈ fileLines text)
    (hc : c ∈ line) (hne : c ≠ '\n') : c ∈ text := by
  have hpiece : ∀ piece ∈ splitChars '\n' text, c ∈ piece → c ∈ text := fun piece hpiece hc =>
    (mem_of_mem_splitChars hpiece hc).1
  rcases List.mem_append.1 hline with hline | hline
  · obtain ⟨piece, hmem, rfl⟩ := List.mem_map.1 hline
    rcases List.mem_append.1 hc with hc | hc
    · exact hpiece piece (List.mem_of_mem_dropLast hmem) hc
    · exact absurd (List.mem_singleton.1 hc) hne
  · split at hline
    · cases hline
    · obtain rfl := List.mem_singleton.1 hline
      cases hpieces : splitChars '\n' text with
      | nil => exact absurd hpieces (splitChars_ne_nil _ _)
      | cons first rest =>
          rw [hpieces] at hpiece
          rw [hpieces, List.getLastD_cons] at hc
          exact hpiece _ List.getLastD_mem_cons hc

section

variable {a b : List Char} {c d : Char}

theorem unifyLineEnds_return (h : a.head? ≠ some '\n') :
    unifyLineEnds ('\r' :: a) = '\n' :: unifyLineEnds a := by
  rw [unifyLineEnds]
  rintro rest rfl
  exact h rfl

theorem getLast?_cons_of_eq (h : a.getLast? = some d) : (c :: a).getLast? = some d := by
  rw [List.getLast?_cons, h, Option.getD_some]

/-- Line ends may be unified in two parts, unless these part a carriage return from its line feed. -/
theorem unifyLineEnds_append (h : a.getLast? = some '\r' → b.head? ≠ some '\n') :
    unifyLineEnds (a ++ b) = unifyLineEnds a ++ unifyLineEnds b := by
  fun_induction unifyLineEnds a with
  | case1 => rfl
  | case2 rest ih =>
      rw [List.cons_append, List.cons_append, unifyLineEnds, List.cons_append,
        ih fun hlast => h (getLast?_cons_of_eq (getLast?_cons_of_eq hlast))]
  | case3 rest hrest ih =>
      have hhead : (rest ++ b).head? ≠ some '\n' := by
        cases rest with
        | nil => exact h rfl
        | cons first rest =>
            rintro ⟨⟩
            exact hrest rest rfl
      rw [List.cons_append, unifyLineEnds_return hhead, List.cons_append,
        ih fun hlast => h (getLast?_cons_of_eq hlast)]
  | case4 c rest _ hc ih =>
      rw [List.cons_append, unifyLineEnds, List.cons_append,
        ih fun hlast => h (getLast?_cons_of_eq hlast)]
      · exact fun _ hreturn => absurd hreturn hc
      · exact hc

theorem holdReturn_fst_append_snd (a : List Char) : (holdReturn a).1 ++ (holdReturn a).2 = a := by
  unfold holdReturn
  split
  · rename_i hlast
    obtain ⟨front, rfl⟩ := List.getLast?_eq_some_iff.1 hlast
    rw [List.dropLast_concat]
  · exact List.append_nil a

theorem holdReturn_snd (a : List Char) : (holdReturn a).2 = ['\r'] ∨
    (holdReturn a).2 = [] ∧ (holdReturn a).1 = a ∧ a.getLast? ≠ some '\r' := by
  unfold holdReturn
  split
  · exact .inl rfl
  · rename_i hlast
    exact .inr ⟨rfl, rfl, hlast⟩

theorem holdReturn_append_of_ne_nil (a : List Char) (h : b ≠ []) :
    holdReturn (a ++ b) = (a ++ (holdReturn b).1, (holdReturn b).2) := by
  unfold holdReturn
  rw [List.getLast?_append_of_ne_nil a h]
  split
  · rw [List.dropLast_append_of_ne_nil h]
  · rfl

/-- A text may be taken up in two parts: a carriage return that is held is put before the second. -/
theorem holdReturn_append (a b : List Char) :
    holdReturn (a ++ b) = ((holdReturn a).1 ++ (holdReturn ((holdReturn a).2 ++ b)).1,
      (holdReturn ((holdReturn a).2 ++ b)).2) := by
  by_cases hnil : (holdReturn a).2 ++ b = []
  · obtain ⟨hheld, rfl⟩ := List.append_eq_nil_iff.1 hnil
    rw [hnil, List.append_nil]
    exact Prod.ext (List.append_nil _).symm hheld
  · have hparts := holdReturn_append_of_ne_nil (holdReturn a).1 hnil
    rwa [← List.append_assoc, holdReturn_fst_append_snd] at hparts

theorem unifyLineEnds_front_append (a : List Char)
    (h : (holdReturn a).2 = ['\r'] → b.head? ≠ some '\n') :
    unifyLineEnds ((holdReturn a).1 ++ b) = unifyLineEnds (holdReturn a).1 ++ unifyLineEnds b := by
  apply unifyLineEnds_append
  intro hlast
  rcases holdReturn_snd a with hheld | ⟨-, hfront, hplain⟩
  · exact h hheld
  · rw [hfront] at hlast
    exact absurd hlast hplain

/-- The line ends of a text are those of what is not held and of what is held. -/
theorem unifyLineEnds_front_held (a : List Char) :
    unifyLineEnds (holdReturn a).1 ++ unifyLineEnds (holdReturn a).2 = unifyLineEnds a := by
  rw [← unifyLineEnds_front_append a, holdReturn_fst_append_snd]
  intro hheld
  rw [hheld]
  decide

theorem unifyLineEnds_front (a b : List Char) :
    unifyLineEnds (holdReturn (a ++ b)).1 =
      unifyLineEnds (holdReturn a).1 ++ unifyLineEnds (holdReturn ((holdReturn a).2 ++ b)).1 := by
  rw [holdReturn_append]
  apply unifyLineEnds_front_append
  intro hheld hhead
  rw [hheld] at hhead
  have hparts := holdReturn_fst_append_snd (['\r'] ++ b)
  obtain ⟨tail, htail⟩ := List.head?_eq_some_iff.1 hhead
  rw [htail] at hparts
  cases hparts

theorem cutLines_nil : cutLines [] = ([], []) := rfl

theorem cutLines_newline (a : List Char) :
    cutLines ('\n' :: a) = (['\n'] :: (cutLines a).1, (cutLines a).2) := by
  unfold cutLines
  rw [splitChars, if_pos rfl]
  cases hpieces : splitChars '\n' a with
  | nil => exact absurd hpieces (splitChars_ne_nil _ _)
  | cons piece pieces => rfl

theorem cutLines_cons (hc : c ≠ '\n') (a : List Char) :
    cutLines (c :: a) =
      match cutLines a with
      | (line :: complete, last) => ((c :: line) :: complete, last)
      | ([], last) => ([], c :: last) := by
  unfold cutLines
  rw [splitChars, if_neg hc]
  cases hpieces : splitChars '\n' a with
  | nil => exact absurd hpieces (splitChars_ne_nil _ _)
  | cons piece pieces =>
      cases pieces with
      | nil => rfl
      | cons next pieces => rfl

/-- A text may be cut into lines in two parts: the beginning of a line is put before the second. -/
theorem cutLines_append (a b : List Char) :
    cutLines (a ++ b) = ((cutLines a).1 ++ (cutLines ((cutLines a).2 ++ b)).1,
      (cutLines ((cutLines a).2 ++ b)).2) := by
  induction a with
  | nil => rfl
  | cons c a ih =>
      by_cases hc : c = '\n'
      · rw [hc, List.cons_append, cutLines_newline, cutLines_newline, ih]
        rfl
      · rw [List.cons_append, cutLines_cons hc, cutLines_cons hc, ih]
        cases hlines : cutLines a with
        | mk complete last =>
            cases complete with
            | cons line complete => rfl
            | nil =>
                rw [List.nil_append, List.nil_append, List.cons_append, cutLines_cons hc]

/-- The lines that are complete in what is not held of two parts of a text. -/
theorem cutLines_front (a b : List Char) :
    cutLines (unifyLineEnds (holdReturn (a ++ b)).1) =
      ((cutLines (unifyLineEnds (holdReturn a).1)).1 ++
        (cutLines ((cutLines (unifyLineEnds (holdReturn a).1)).2 ++
          unifyLineEnds (holdReturn ((holdReturn a).2 ++ b)).1)).1,
        (cutLines ((cutLines (unifyLineEnds (holdReturn a).1)).2 ++
          unifyLineEnds (holdReturn ((holdReturn a).2 ++ b)).1)).2) := by
  rw [unifyLineEnds_front, cutLines_append]

theorem fileLines_append (a b : List Char) :
    fileLines (a ++ b) = (cutLines a).1 ++ fileLines ((cutLines a).2 ++ b) := by
  unfold fileLines
  rw [cutLines_append]
  exact List.append_assoc ..

end

/-! ## Streams -/

/-- The lines that are complete in what bytes begin with, apart from a carriage return at the end. -/
def completeLines (bytes : List UInt8) : List (List Char) :=
  (cutLines (unifyLineEnds (holdReturn (Utf8.upToError bytes).1).1)).1

/-- Complete lines stay complete. -/
theorem completeLines_prefix (bytes more : List UInt8) :
    completeLines bytes <+: completeLines (bytes ++ more) := by
  unfold completeLines
  rw [Utf8.upToError_append, cutLines_front]
  exact List.prefix_append ..

namespace Stream

open Utf8 (BeginsText upToError strict)

variable {bytes portion : List UInt8} {text : List Char}

def after (bytes : List UInt8) : Stream where
  bytes := (upToError bytes).2
  held := (holdReturn (upToError bytes).1).2
  line := (cutLines (unifyLineEnds (holdReturn (upToError bytes).1).1)).2

/-- A portion completes the lines that are complete with it and were not without it. -/
theorem feed_after (h : BeginsText (bytes ++ portion)) :
    ∃ complete, (after bytes).feed portion = .ok (complete, after (bytes ++ portion)) ∧
      completeLines bytes ++ complete = completeLines (bytes ++ portion) := by
  have hbegun := Utf8.begun_of_beginsText ((Utf8.beginsText_append bytes portion).1 h)
  have hread := Utf8.upToError_append bytes portion
  unfold after completeLines
  generalize upToError bytes = taken at hbegun hread ⊢
  obtain ⟨a, pending⟩ := taken
  dsimp only at hbegun hread ⊢
  generalize upToError (pending ++ portion) = decoded at hbegun hread
  obtain ⟨b, rest⟩ := decoded
  have hlines := cutLines_front a b
  refine ⟨(cutLines ((cutLines (unifyLineEnds (holdReturn a).1)).2 ++
    unifyLineEnds (holdReturn ((holdReturn a).2 ++ b)).1)).1, ?_, ?_⟩
  · simp only [feed, hbegun, hread, hlines]
    rw [holdReturn_append a b]
  · rw [hread, hlines]

theorem feed_after_error (h : ¬ BeginsText (bytes ++ portion)) :
    ∃ f, (after bytes).feed portion = .error f := by
  rw [Utf8.beginsText_append] at h
  obtain ⟨f, hf⟩ := Utf8.begun_of_not_beginsText h
  refine ⟨f, ?_⟩
  unfold feed after
  rw [hf]

/-- The lines of a text come out whole. -/
theorem lines_after_of_strict {portions : List (List UInt8)}
    (h : strict (bytes ++ portions.flatten) = .ok text) :
    ∃ more, (after bytes).lines portions = (more, none) ∧
      completeLines bytes ++ more = fileLines (unifyLineEnds text) := by
  induction portions generalizing bytes with
  | nil =>
      rw [List.flatten_nil, List.append_nil, Utf8.strict_eq_ok_iff] at h
      unfold lines close after completeLines
      rw [h]
      refine ⟨_, rfl, ?_⟩
      dsimp only
      rw [← fileLines_append, unifyLineEnds_front_held]
  | cons portion portions ih =>
      rw [List.flatten_cons, ← List.append_assoc] at h
      obtain ⟨complete, hfeed, hcomplete⟩ := feed_after (Utf8.beginsText_of_strict h).of_append
      obtain ⟨more, hlines, hmore⟩ := ih h
      refine ⟨complete ++ more, ?_, by rw [← List.append_assoc, hcomplete, hmore]⟩
      rw [lines, hfeed]
      dsimp only
      rw [hlines]

/-- If bytes are no text, the lines come out that are complete before the portion in which an error
is judged, or before the end if none is. -/
theorem lines_after_of_error {portions : List (List UInt8)} {e : Utf8.Fault}
    (begins : BeginsText bytes) (h : strict (bytes ++ portions.flatten) = .error e) :
    ∃ more f before rest, (after bytes).lines portions = (more, some f) ∧
      portions = before ++ rest ∧ BeginsText (bytes ++ before.flatten) ∧
      (∀ portion ∈ rest.head?, ¬ BeginsText (bytes ++ before.flatten ++ portion)) ∧
      completeLines bytes ++ more = completeLines (bytes ++ before.flatten) := by
  induction portions generalizing bytes with
  | nil =>
      rw [List.flatten_nil, List.append_nil] at h
      cases hrest : (upToError bytes).2 with
      | nil =>
          have htext : strict bytes = .ok (upToError bytes).1 :=
            Utf8.strict_eq_ok_iff.2 (Prod.ext rfl hrest)
          rw [htext] at h
          cases h
      | cons first rest =>
          refine ⟨[], Utf8.faultAt 0 first rest, [], [], ?_, rfl, ?_, nofun, ?_⟩
          · unfold lines close after
            rw [hrest]
          · rwa [List.flatten_nil, List.append_nil]
          · rw [List.flatten_nil, List.append_nil, List.append_nil]
  | cons portion portions ih =>
      by_cases hportion : BeginsText (bytes ++ portion)
      · rw [List.flatten_cons, ← List.append_assoc] at h
        obtain ⟨complete, hfeed, hcomplete⟩ := feed_after hportion
        obtain ⟨more, f, before, rest, hlines, rfl, hbefore, hrest, hmore⟩ := ih hportion h
        refine ⟨complete ++ more, f, portion :: before, rest, ?_, rfl, ?_, ?_, ?_⟩
        · rw [lines, hfeed]
          dsimp only
          rw [hlines]
        · rwa [List.flatten_cons, ← List.append_assoc]
        · rwa [List.flatten_cons, ← List.append_assoc]
        · rw [List.flatten_cons, ← List.append_assoc, ← List.append_assoc, hcomplete, hmore]
      · obtain ⟨f, hfeed⟩ := feed_after_error hportion
        refine ⟨[], f, [], portion :: portions, ?_, rfl, ?_, ?_, ?_⟩
        · rw [lines, hfeed]
        · rwa [List.flatten_nil, List.append_nil]
        · intro other hother
          obtain rfl := Option.some.inj hother
          rwa [List.flatten_nil, List.append_nil]
        · rw [List.flatten_nil, List.append_nil, List.append_nil]

end Stream

/-! ## Files -/

theorem flatten_portionsFrom {fuel : Nat} {bytes : List UInt8} (h : bytes.length ≤ fuel) :
    (portionsFrom fuel bytes).flatten = bytes := by
  induction fuel generalizing bytes with
  | zero =>
      obtain rfl := List.length_eq_zero_iff.1 (Nat.le_zero.1 h)
      rfl
  | succ fuel ih =>
      cases bytes with
      | nil => rfl
      | cons b rest =>
          have hrest : ((b :: rest).drop portionSize).length ≤ fuel := by
            rw [List.length_drop]
            exact Nat.sub_le_of_le_add (h.trans (Nat.add_le_add_left (by decide) fuel))
          rw [portionsFrom, List.flatten_cons, ih hrest, List.take_append_drop]
          exact List.cons_ne_nil _ _

/-- Portions are full until the bytes come to their end. -/
theorem flatten_before {fuel : Nat} {bytes : List UInt8} {before rest : List (List UInt8)}
    (h : portionsFrom fuel bytes = before ++ rest) :
    before.flatten = bytes.take (before.length * portionSize) := by
  induction before generalizing fuel bytes with
  | nil => rw [List.length_nil, Nat.zero_mul, List.take_zero, List.flatten_nil]
  | cons first before ih =>
      cases fuel with
      | zero => cases h
      | succ fuel =>
          cases bytes with
          | nil => cases h
          | cons b tail =>
              rw [portionsFrom, List.cons_append] at h
              · obtain ⟨rfl, htail⟩ := List.cons.inj h
                rw [List.flatten_cons, ih htail, List.length_cons, Nat.succ_mul, Nat.add_comm,
                  List.take_add]
              · exact List.cons_ne_nil _ _

/-- The lines of a file that is text are those of its text. -/
theorem readLines_of_strict {bytes : List UInt8} {text : List Char}
    (h : Utf8.strict bytes = .ok text) : readLines bytes = (fileLines (unifyLineEnds text), none) := by
  have hbytes : [] ++ (portions bytes).flatten = bytes := flatten_portionsFrom (Nat.le_refl _)
  rw [← hbytes] at h
  obtain ⟨more, hlines, rfl⟩ := Stream.lines_after_of_strict h
  exact hlines

/-- If a file is no text, the lines that it begins with are read up to the portion in which this
shows, or up to the end if it shows only there. -/
theorem readLines_of_error {bytes : List UInt8} {e : Utf8.Fault} (h : Utf8.strict bytes = .error e) :
    ∃ n f, readLines bytes = (completeLines (bytes.take (n * portionSize)), some f) ∧
      Utf8.BeginsText (bytes.take (n * portionSize)) ∧
      ∀ m, Utf8.BeginsText (bytes.take (m * portionSize)) →
        bytes.take (m * portionSize) <+: bytes.take (n * portionSize) := by
  have hbytes : [] ++ (portions bytes).flatten = bytes := flatten_portionsFrom (Nat.le_refl _)
  have begins : Utf8.BeginsText [] := nofun
  rw [← hbytes] at h
  obtain ⟨more, f, before, rest, hlines, hparts, hbegins, hrest, hmore⟩ :=
    Stream.lines_after_of_error begins h
  have hbefore := flatten_before hparts
  rw [List.nil_append, hbefore] at hbegins hrest hmore
  refine ⟨before.length, f, ?_, hbegins, fun m hm => ?_⟩
  · rw [← hmore]
    exact hlines
  · cases rest with
    | nil =>
        rw [hparts, List.append_nil, List.nil_append, hbefore] at hbytes
        rw [hbytes]
        exact List.take_prefix ..
    | cons portion rest =>
        rw [List.append_cons] at hparts
        have hnext := flatten_before hparts
        rw [List.flatten_append, hbefore, List.flatten_singleton, List.length_append,
          List.length_singleton] at hnext
        have hshown := hrest portion rfl
        rw [hnext] at hshown
        have hlt : m < before.length + 1 := by
          by_contra hle
          obtain ⟨tail, htail⟩ := List.take_prefix_take_left
            (l := bytes) (Nat.mul_le_mul_right portionSize (Nat.le_of_not_lt hle))
          rw [← htail] at hm
          exact hshown hm.of_append
        exact List.take_prefix_take_left (Nat.mul_le_mul_right portionSize (Nat.le_of_lt_succ hlt))

theorem strict_of_readLines {bytes : List UInt8} {lines : List (List Char)}
    (h : readLines bytes = (lines, none)) :
    ∃ text, Utf8.strict bytes = .ok text ∧ lines = fileLines (unifyLineEnds text) := by
  cases hstrict : Utf8.strict bytes with
  | ok text =>
      rw [readLines_of_strict hstrict] at h
      obtain ⟨rfl, -⟩ := Prod.mk.inj h
      exact ⟨text, rfl, rfl⟩
  | error e =>
      obtain ⟨n, f, hlines, -⟩ := readLines_of_error hstrict
      rw [hlines] at h
      cases h

end CallAtlas.Text
