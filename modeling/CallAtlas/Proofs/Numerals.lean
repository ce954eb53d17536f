import CallAtlas.Decimal.Numeral
import Mathlib.Data.List.Basic
import Mathlib.Tactic.Common

/-!
# Numerals

The texts that stand for numbers, said by a grammar, together with the numbers they stand for.  A
number is read from a text exactly if the grammar gives it that number.
-/

namespace CallAtlas.Decimal

open Text

/-- A text and the same text without its underscores, each of which stands between two digits. -/
inductive Grouped : List Char → List Char → Prop where
  | nil : Grouped [] []
  | keep {c : Char} {s t : List Char} (other : c ≠ '_') (rest : Grouped s t) :
      Grouped (c :: s) (c :: t)
  | skip {c d : Char} {s t : List Char} (before : c.isDigit = true) (after : d.isDigit = true)
      (rest : Grouped (d :: s) (d :: t)) : Grouped (c :: '_' :: d :: s) (c :: d :: t)

theorem ne_underscore_of_isDigit {c : Char} (h : c.isDigit = true) : c ≠ '_' := by
  rintro rfl
  cases h

theorem Grouped.dropUnderscores_eq {s t : List Char} (grouped : Grouped s t) {before : Option Char}
    (h : before ≠ some '_') : dropUnderscores before s = some t := by
  induction grouped generalizing before with
  | nil => simp [dropUnderscores, h]
  | @keep c s t other rest ih =>
      have hrest : dropUnderscores (some c) s = some t := ih (by simpa using other)
      simp [dropUnderscores, other, h, hrest]
  | @skip c d s t hbefore hafter rest ih =>
      have hc := ne_underscore_of_isDigit hbefore
      have hd := ne_underscore_of_isDigit hafter
      have hrest : dropUnderscores (some d) s = some t := by
        simpa [dropUnderscores, hd] using ih (Option.some_ne_none '_').symm
      simp [dropUnderscores, hc, hd, hbefore, hafter, hrest]

/-- What is left after a character, and after an underscore, where a digit must follow. -/
theorem grouped_after (s : List Char) :
    (∀ c t, c ≠ '_' → dropUnderscores (some c) s = some t → Grouped (c :: s) (c :: t)) ∧
    ∀ t, dropUnderscores (some '_') s = some t →
      ∃ d s' t', s = d :: s' ∧ t = d :: t' ∧ d.isDigit = true ∧ Grouped (d :: s') (d :: t') := by
  -- both at once: an underscore is dropped only together with what stands on both sides of it
  induction s with
  | nil =>
      constructor
      · intro c t hc h
        obtain rfl : t = [] := by simpa [dropUnderscores, hc] using h.symm
        exact .keep hc .nil
      · intro t h
        simp [dropUnderscores] at h
  | cons e s ih =>
      constructor
      · intro c t hc h
        by_cases he : e = '_'
        · subst he
          obtain ⟨hdigit, h⟩ : c.isDigit = true ∧ dropUnderscores (some '_') s = some t := by
            simpa [dropUnderscores] using h
          obtain ⟨d, s', t', rfl, rfl, hd, grouped⟩ := ih.2 t h
          exact .skip hdigit hd grouped
        · obtain ⟨t', hrest, rfl⟩ : ∃ t', dropUnderscores (some e) s = some t' ∧ e :: t' = t := by
            simpa [dropUnderscores, he, hc] using h
          exact .keep hc (ih.1 e t' he hrest)
      · intro t h
        by_cases he : e.isDigit = true
        · have hne := ne_underscore_of_isDigit he
          obtain ⟨t', hrest, rfl⟩ : ∃ t', dropUnderscores (some e) s = some t' ∧ e :: t' = t := by
            simpa [dropUnderscores, hne, he] using h
          exact ⟨e, s, t', rfl, rfl, he, ih.1 e t' hne hrest⟩
        · simp [dropUnderscores, he] at h

theorem dropUnderscores_eq_some_iff (s t : List Char) :
    dropUnderscores none s = some t ↔ Grouped s t := by
  refine ⟨fun h => ?_, fun grouped => grouped.dropUnderscores_eq (Option.some_ne_none '_').symm⟩
  cases s with
  | nil =>
      obtain rfl : t = [] := by simpa [dropUnderscores] using h.symm
      exact .nil
  | cons c s =>
      by_cases hc : c = '_'
      · simp [dropUnderscores, hc] at h
      · obtain ⟨t', hrest, rfl⟩ : ∃ t', dropUnderscores (some c) s = some t' ∧ c :: t' = t := by
          simpa [dropUnderscores, hc] using h
        exact (grouped_after s).1 c t' hc hrest

inductive Sign : List Char → Bool → Prop where
  | none : Sign [] false
  | plus : Sign ['+'] false
  | minus : Sign ['-'] true

def AllDigits (s : List Char) : Prop := ∀ c ∈ s, c.isDigit = true

/-- An exponent that may be missing, and its value. -/
inductive Exponent : List Char → Int → Prop where
  | none : Exponent [] 0
  | some {e : Char} {sign digits : List Char} {negative : Bool} (letter : e = 'e' ∨ e = 'E')
      (signed : Sign sign negative) (all : AllDigits digits) (some : digits ≠ []) :
      Exponent (e :: (sign ++ digits))
        (if negative then -(digitsValue digits : Int) else digitsValue digits)

/-- The words for numbers that no digits stand for. -/
def namedNumbers : List (String × Float) :=
  [("inf", infinity), ("infinity", infinity), ("nan", notANumber)]

/-- A numeral without a sign, and its value: a word in letters of any case, or a decimal.  A decimal
has a digit before or after its point, which may be missing if no digit follows it. -/
inductive Magnitude : List Char → Float → Prop where
  | named {s : List Char} {word : String} {x : Float} (known : (word, x) ∈ namedNumbers)
      (spelled : s.map Char.toLower = word.toList) : Magnitude s x
  | whole {digits exponent : List Char} {n : Int} (all : AllDigits digits) (some : digits ≠ [])
      (scaled : Exponent exponent n) :
      Magnitude (digits ++ exponent) (nearestScaled (digitsValue digits) n)
  | fraction {whole fraction exponent : List Char} {n : Int} (allWhole : AllDigits whole)
      (allFraction : AllDigits fraction) (some : whole ++ fraction ≠ [])
      (scaled : Exponent exponent n) :
      Magnitude (whole ++ '.' :: (fraction ++ exponent))
        (nearestScaled (digitsValue (whole ++ fraction)) (n - fraction.length))

inductive Signed : List Char → Float → Prop where
  | intro {sign body : List Char} {negative : Bool} {x : Float} (signed : Sign sign negative)
      (magnitude : Magnitude body x) : Signed (sign ++ body) (if negative then -x else x)

theorem toLower_of_toNat_lt {c : Char} (h : c.toNat < 65) : c.toLower = c := by
  have hupper : ¬ ('A'.val ≤ c.val ∧ c.val ≤ 'Z'.val) := fun hupper =>
    absurd h (Nat.not_lt_of_le (UInt32.le_iff_toNat_le.1 hupper.1))
  exact dif_neg hupper

theorem toNat_of_isDigit {c : Char} (h : c.isDigit = true) : 48 ≤ c.toNat ∧ c.toNat ≤ 57 := by
  simp only [Char.isDigit, Bool.and_eq_true, decide_eq_true_eq, ge_iff_le,
    UInt32.le_iff_toNat_le] at h
  exact h

theorem isNumeralBlank_of_lt {c : Char} (h : 32 < c.toNat) : isNumeralBlank c = false := by
  have hspace : c ≠ ' ' := by
    rintro rfl
    exact absurd h (by decide)
  simp only [isNumeralBlank, Bool.or_eq_false_iff, beq_eq_false_iff_ne, Bool.and_eq_false_iff,
    decide_eq_false_iff_not]
  exact ⟨hspace, .inr (by omega)⟩

/-- Words for numbers consist of letters. -/
theorem le_toNat_of_named {s : List Char} {word : String} {x : Float}
    (known : (word, x) ∈ namedNumbers) (spelled : s.map Char.toLower = word.toList) :
    ∀ c ∈ s, 65 ≤ c.toNat := by
  intro c hc
  by_contra hlt
  have hlower := toLower_of_toNat_lt (Nat.lt_of_not_le hlt)
  have hletters : (namedNumbers.all fun p => p.1.toList.all fun d => 65 ≤ d.toNat) = true := rfl
  have hword := List.all_eq_true.1 (List.all_eq_true.1 hletters _ known) c.toLower
    (spelled ▸ List.mem_map_of_mem hc)
  rw [hlower] at hword
  exact hlt (of_decide_eq_true hword)

/-! ## Reading signs, exponents and decimals -/

theorem sign_splitSign (s : List Char) :
    ∃ sign, s = sign ++ (splitSign s).2 ∧ Sign sign (splitSign s).1 := by
  fun_cases splitSign s with
  | case1 rest => exact ⟨['-'], rfl, .minus⟩
  | case2 rest => exact ⟨['+'], rfl, .plus⟩
  | case3 s _ _ => exact ⟨[], rfl, .none⟩

theorem Sign.splitSign_eq {sign body : List Char} {negative : Bool} (signed : Sign sign negative)
    (unsigned : ∀ c ∈ body.head?, c ≠ '+' ∧ c ≠ '-') :
    splitSign (sign ++ body) = (negative, body) := by
  cases signed with
  | plus => rfl
  | minus => rfl
  | none =>
      rw [List.nil_append]
      cases body with
      | nil => rfl
      | cons c body =>
          obtain ⟨hplus, hminus⟩ := unsigned c rfl
          exact splitSign.eq_3 _ (fun _ h => hminus (List.cons.inj h).1)
            (fun _ h => hplus (List.cons.inj h).1)

theorem AllDigits.head {digits rest : List Char} (all : AllDigits digits) (hsome : digits ≠ []) :
    ∀ c ∈ (digits ++ rest).head?, c.isDigit = true := by
  cases digits with
  | nil => exact absurd rfl hsome
  | cons d digits =>
      rintro c hc
      obtain rfl := Option.some.inj hc
      exact all _ List.mem_cons_self

theorem isDigit_ne_sign {c : Char} (h : c.isDigit = true) : c ≠ '+' ∧ c ≠ '-' := by
  constructor <;> rintro rfl <;> cases h

theorem readExponent_eq_some_iff (s : List Char) (n : Int) :
    readExponent s = some n ↔ Exponent s n := by
  constructor
  · intro h
    cases s with
    | nil =>
        obtain rfl := Option.some.inj h
        exact .none
    | cons e rest =>
        rw [readExponent] at h
        split at h
        · rename_i hletter
          obtain ⟨sign, hrest, signed⟩ := sign_splitSign rest
          dsimp only at h
          split at h
          · cases h
          · rename_i hdigits
            obtain rfl := Option.some.inj h
            obtain ⟨hsome, hall⟩ : (splitSign rest).2 ≠ [] ∧ AllDigits (splitSign rest).2 := by
              simpa [not_or, AllDigits] using hdigits
            have hexponent := Exponent.some (by simpa using hletter) signed hall hsome
            rw [← hrest] at hexponent
            exact hexponent
        · cases h
  · intro exponent
    cases exponent with
    | none => rfl
    | @some e sign digits negative letter signed all hsome =>
        have hsplit : splitSign (sign ++ digits) = (negative, digits) := by
          apply signed.splitSign_eq
          intro c hc
          rw [← List.append_nil digits] at hc
          exact isDigit_ne_sign (all.head hsome c hc)
        have hletter : (e == 'e' || e == 'E') = true := by simpa using letter
        have hdigits : ¬ (digits.isEmpty || !digits.all Char.isDigit) = true := by
          simpa [not_or, AllDigits, hsome] using all
        rw [readExponent, if_pos hletter, hsplit]
        dsimp only
        rw [if_neg hdigits]

theorem span_digits {digits rest : List Char} (all : AllDigits digits)
    (stops : ∀ c ∈ rest.head?, c.isDigit = false) :
    (digits ++ rest).takeWhile Char.isDigit = digits ∧
      (digits ++ rest).dropWhile Char.isDigit = rest := by
  rw [List.takeWhile_append_of_pos all, List.dropWhile_append_of_pos all]
  cases rest with
  | nil => simp
  | cons c rest => simp [stops c rfl]

theorem Exponent.head {s : List Char} {n : Int} (exponent : Exponent s n) :
    ∀ c ∈ s.head?, c.isDigit = false ∧ c ≠ '.' := by
  cases exponent with
  | none => intro c hc; cases hc
  | some letter =>
      intro c hc
      obtain rfl := Option.some.inj hc
      rcases letter with rfl | rfl <;> exact ⟨rfl, by decide⟩

theorem allDigits_takeWhile (s : List Char) : AllDigits (s.takeWhile Char.isDigit) :=
  List.all_eq_true.1 List.all_takeWhile

theorem readDecimal_of_whole {s digits rest : List Char} (htake : s.takeWhile Char.isDigit = digits)
    (hdrop : s.dropWhile Char.isDigit = rest) (hpoint : ∀ c ∈ rest.head?, c ≠ '.') :
    readDecimal s = if digits = [] then none
      else (readExponent rest).map fun e => nearestScaled (digitsValue digits) e := by
  unfold readDecimal
  rw [htake, hdrop]
  dsimp only
  split
  · exact absurd rfl (hpoint '.' rfl)
  · simp

theorem readDecimal_of_point {s digits rest : List Char} (htake : s.takeWhile Char.isDigit = digits)
    (hdrop : s.dropWhile Char.isDigit = '.' :: rest) :
    readDecimal s = if digits ++ rest.takeWhile Char.isDigit = [] then none
      else (readExponent (rest.dropWhile Char.isDigit)).map fun e =>
        nearestScaled (digitsValue (digits ++ rest.takeWhile Char.isDigit))
          (e - (rest.takeWhile Char.isDigit).length) := by
  unfold readDecimal
  rw [htake, hdrop]
  simp

theorem magnitude_of_readDecimal {s : List Char} {x : Float} (h : readDecimal s = some x) :
    Magnitude s x := by
  have hs := List.takeWhile_append_dropWhile (p := Char.isDigit) (l := s)
  have all := allDigits_takeWhile s
  by_cases hpoint : (s.dropWhile Char.isDigit).head? = some '.'
  · obtain ⟨rest, hdrop⟩ := List.head?_eq_some_iff.1 hpoint
    rw [readDecimal_of_point rfl hdrop] at h
    split at h
    · cases h
    · rename_i hsome
      obtain ⟨n, hn, rfl⟩ := Option.map_eq_some_iff.1 h
      have hmagnitude := Magnitude.fraction all (allDigits_takeWhile rest) hsome
        ((readExponent_eq_some_iff _ _).1 hn)
      rw [List.takeWhile_append_dropWhile, ← hdrop, hs] at hmagnitude
      exact hmagnitude
  · rw [readDecimal_of_whole rfl rfl fun c hc hdot => hpoint (hdot ▸ hc)] at h
    split at h
    · cases h
    · rename_i hsome
      obtain ⟨n, hn, rfl⟩ := Option.map_eq_some_iff.1 h
      have hmagnitude := Magnitude.whole all hsome ((readExponent_eq_some_iff _ _).1 hn)
      rw [hs] at hmagnitude
      exact hmagnitude

theorem readDecimal_whole {digits exponent : List Char} {n : Int} (all : AllDigits digits)
    (hsome : digits ≠ []) (scaled : Exponent exponent n) :
    readDecimal (digits ++ exponent) = some (nearestScaled (digitsValue digits) n) := by
  obtain ⟨htake, hdrop⟩ := span_digits all fun c hc => (scaled.head c hc).1
  rw [readDecimal_of_whole htake hdrop fun c hc => (scaled.head c hc).2, if_neg hsome,
    (readExponent_eq_some_iff _ _).2 scaled]
  rfl

theorem readDecimal_fraction {whole fraction exponent : List Char} {n : Int}
    (allWhole : AllDigits whole) (allFraction : AllDigits fraction) (hsome : whole ++ fraction ≠ [])
    (scaled : Exponent exponent n) :
    readDecimal (whole ++ '.' :: (fraction ++ exponent)) =
      some (nearestScaled (digitsValue (whole ++ fraction)) (n - fraction.length)) := by
  have hpoint : ∀ c ∈ ('.' :: (fraction ++ exponent)).head?, c.isDigit = false := by
    intro c hc
    obtain rfl := Option.some.inj hc
    rfl
  obtain ⟨hwhole, hrest⟩ := span_digits allWhole hpoint
  obtain ⟨hfraction, hexponent⟩ := span_digits allFraction fun c hc => (scaled.head c hc).1
  rw [readDecimal_of_point hwhole hrest, hfraction, hexponent, if_neg hsome,
    (readExponent_eq_some_iff _ _).2 scaled]
  rfl

/-! ## Reading numbers -/

theorem readMagnitude_decimal {s : List Char} (decimal : ∃ c ∈ s, c.toNat < 65) :
    readMagnitude s = readDecimal s := by
  obtain ⟨c, hc, hlt⟩ := decimal
  have hword {word : String} {x : Float} (known : (word, x) ∈ namedNumbers) :
      String.ofList (s.map Char.toLower) ≠ word := by
    intro h
    have spelled : s.map Char.toLower = word.toList := by rw [← h, String.toList_ofList]
    exact absurd hlt (Nat.not_lt_of_le (le_toNat_of_named known spelled c hc))
  have hinf : String.ofList (s.map Char.toLower) ≠ "inf" := hword (.head _)
  have hinfinity : String.ofList (s.map Char.toLower) ≠ "infinity" := hword (.tail _ (.head _))
  have hnan : String.ofList (s.map Char.toLower) ≠ "nan" := hword (.tail _ (.tail _ (.head _)))
  simp [readMagnitude, hinf, hinfinity, hnan]

theorem Magnitude.readMagnitude_eq {s : List Char} {x : Float} (magnitude : Magnitude s x) :
    readMagnitude s = some x := by
  cases magnitude with
  | @named s word x known spelled =>
      simp only [namedNumbers, List.mem_cons, Prod.mk.injEq, List.not_mem_nil, or_false] at known
      rcases known with ⟨rfl, rfl⟩ | ⟨rfl, rfl⟩ | ⟨rfl, rfl⟩ <;> simp [readMagnitude, spelled]
  | @whole digits exponent n all hsome scaled =>
      rw [readMagnitude_decimal, readDecimal_whole all hsome scaled]
      obtain ⟨c, hc⟩ := List.exists_mem_of_ne_nil _ hsome
      have := toNat_of_isDigit (all c hc)
      exact ⟨c, List.mem_append_left _ hc, by omega⟩
  | @fraction whole fraction exponent n allWhole allFraction hsome scaled =>
      rw [readMagnitude_decimal, readDecimal_fraction allWhole allFraction hsome scaled]
      exact ⟨'.', by simp, by decide⟩

theorem readMagnitude_eq_some_iff (s : List Char) (x : Float) :
    readMagnitude s = some x ↔ Magnitude s x := by
  refine ⟨fun h => ?_, Magnitude.readMagnitude_eq⟩
  have hspelled {word : String} (hword : String.ofList (s.map Char.toLower) = word) :
      s.map Char.toLower = word.toList := by
    rw [← hword, String.toList_ofList]
  rw [readMagnitude] at h
  split at h
  · rename_i hword
    obtain rfl := Option.some.inj h
    rcases hword with hword | hword
    · exact .named (.head _) (hspelled hword)
    · exact .named (.tail _ (.head _)) (hspelled hword)
  · split at h
    · rename_i hword
      obtain rfl := Option.some.inj h
      exact .named (.tail _ (.tail _ (.head _))) (hspelled hword)
    · exact magnitude_of_readDecimal h

theorem Magnitude.ne_nil {s : List Char} {x : Float} (magnitude : Magnitude s x) : s ≠ [] := by
  rintro rfl
  have h := magnitude.readMagnitude_eq
  cases h

/-- What a magnitude begins with is no sign. -/
theorem Magnitude.head {s : List Char} {x : Float} (magnitude : Magnitude s x) :
    ∀ c ∈ s.head?, c ≠ '+' ∧ c ≠ '-' := by
  intro c hc
  suffices hle : 46 ≤ c.toNat by
    constructor <;> rintro rfl <;> exact absurd hle (by decide)
  cases magnitude with
  | named known spelled =>
      have := le_toNat_of_named known spelled c (List.mem_of_mem_head? hc)
      omega
  | whole all hsome scaled =>
      have := toNat_of_isDigit (all.head hsome c hc)
      omega
  | @fraction whole fraction exponent n allWhole allFraction hsome scaled =>
      by_cases hwhole : whole = []
      · rw [hwhole] at hc
        obtain rfl := Option.some.inj hc
        decide
      · have := toNat_of_isDigit (allWhole.head hwhole c hc)
        omega

theorem Sign.lt_toNat {s : List Char} {negative : Bool} (sign : Sign s negative) :
    ∀ c ∈ s, 32 < c.toNat := by
  cases sign with
  | none => exact List.forall_mem_nil _
  | plus => exact List.forall_mem_singleton.2 (by decide)
  | minus => exact List.forall_mem_singleton.2 (by decide)

theorem AllDigits.lt_toNat {s : List Char} (all : AllDigits s) : ∀ c ∈ s, 32 < c.toNat := by
  intro c hc
  have := toNat_of_isDigit (all c hc)
  omega

theorem Exponent.lt_toNat {s : List Char} {n : Int} (exponent : Exponent s n) :
    ∀ c ∈ s, 32 < c.toNat := by
  cases exponent with
  | none => exact List.forall_mem_nil _
  | some letter signed all hsome =>
      refine List.forall_mem_cons.2 ⟨?_, List.forall_mem_append.2 ⟨signed.lt_toNat, all.lt_toNat⟩⟩
      rcases letter with rfl | rfl <;> decide

theorem Magnitude.lt_toNat {s : List Char} {x : Float} (magnitude : Magnitude s x) :
    ∀ c ∈ s, 32 < c.toNat := by
  cases magnitude with
  | named known spelled =>
      exact fun c hc => Nat.lt_of_lt_of_le (by decide) (le_toNat_of_named known spelled c hc)
  | whole all hsome scaled => exact List.forall_mem_append.2 ⟨all.lt_toNat, scaled.lt_toNat⟩
  | fraction allWhole allFraction hsome scaled =>
      refine List.forall_mem_append.2 ⟨allWhole.lt_toNat, List.forall_mem_cons.2 ⟨by decide, ?_⟩⟩
      exact List.forall_mem_append.2 ⟨allFraction.lt_toNat, scaled.lt_toNat⟩

theorem signed_iff (s : List Char) (x : Float) :
    ((readMagnitude (splitSign s).2).map fun y => if (splitSign s).1 then -y else y) = some x ↔
      Signed s x := by
  constructor
  · intro h
    obtain ⟨y, hy, rfl⟩ := Option.map_eq_some_iff.1 h
    obtain ⟨sign, hs, signed⟩ := sign_splitSign s
    have hsigned := Signed.intro signed ((readMagnitude_eq_some_iff _ _).1 hy)
    rw [← hs] at hsigned
    exact hsigned
  · intro h
    cases h with
    | @intro sign body negative y signed magnitude =>
        rw [signed.splitSign_eq magnitude.head, magnitude.readMagnitude_eq]
        rfl

theorem Signed.lt_toNat {s : List Char} {x : Float} (signed : Signed s x) :
    ∀ c ∈ s, 32 < c.toNat := by
  cases signed with
  | intro sign magnitude => exact List.forall_mem_append.2 ⟨sign.lt_toNat, magnitude.lt_toNat⟩

theorem Signed.ne_nil {s : List Char} {x : Float} (signed : Signed s x) : s ≠ [] := by
  cases signed with
  | intro sign magnitude => exact List.append_ne_nil_of_right_ne_nil _ magnitude.ne_nil

theorem Grouped.ne_nil {s t : List Char} (grouped : Grouped s t) (h : t ≠ []) : s ≠ [] := by
  cases grouped with
  | nil => exact h
  | keep other rest => exact List.cons_ne_nil _ _
  | skip before after rest => exact List.cons_ne_nil _ _

theorem Grouped.lt_toNat {s t : List Char} (grouped : Grouped s t) (h : ∀ c ∈ t, 32 < c.toNat) :
    ∀ c ∈ s, 32 < c.toNat := by
  induction grouped with
  | nil => exact h
  | keep other rest ih =>
      obtain ⟨hc, ht⟩ := List.forall_mem_cons.1 h
      exact List.forall_mem_cons.2 ⟨hc, ih ht⟩
  | skip before after rest ih =>
      obtain ⟨hc, ht⟩ := List.forall_mem_cons.1 h
      exact List.forall_mem_cons.2 ⟨hc, List.forall_mem_cons.2 ⟨by decide, ih ht⟩⟩

theorem plainNumeral_around (s : List Char) :
    ∃ before after, s.map plainChar = before ++ (plainNumeral s ++ after) ∧
      (∀ c ∈ before, isNumeralBlank c = true) ∧ ∀ c ∈ after, isNumeralBlank c = true := by
  refine ⟨(s.map plainChar).takeWhile isNumeralBlank,
    (((s.map plainChar).dropWhile isNumeralBlank).reverse.takeWhile isNumeralBlank).reverse,
    ?_, List.all_eq_true.1 List.all_takeWhile, ?_⟩
  · rw [plainNumeral, ← List.reverse_append, List.takeWhile_append_dropWhile, List.reverse_reverse,
      List.takeWhile_append_dropWhile]
  · intro c hc
    exact List.all_eq_true.1 List.all_takeWhile c (List.mem_reverse.1 hc)

theorem dropWhile_blanks {blanks body : List Char} (all : ∀ c ∈ blanks, isNumeralBlank c = true)
    (stops : ∀ c ∈ body.head?, isNumeralBlank c = false) :
    (blanks ++ body).dropWhile isNumeralBlank = body := by
  rw [List.dropWhile_append_of_pos all]
  cases body with
  | nil => rfl
  | cons c body => simp [stops c rfl]

theorem plainNumeral_eq {s before body after : List Char}
    (around : s.map plainChar = before ++ (body ++ after))
    (blankBefore : ∀ c ∈ before, isNumeralBlank c = true)
    (blankAfter : ∀ c ∈ after, isNumeralBlank c = true)
    (hbody : ∀ c ∈ body, isNumeralBlank c = false) (hsome : body ≠ []) :
    plainNumeral s = body := by
  have hfirst : (s.map plainChar).dropWhile isNumeralBlank = body ++ after := by
    rw [around]
    apply dropWhile_blanks blankBefore
    intro c hc
    rw [List.head?_append_of_ne_nil _ hsome] at hc
    exact hbody c (List.mem_of_mem_head? hc)
  have hlast : (body ++ after).reverse.dropWhile isNumeralBlank = body.reverse := by
    rw [List.reverse_append]
    apply dropWhile_blanks
    · exact fun c hc => blankAfter c (List.mem_reverse.1 hc)
    · exact fun c hc => hbody c (List.mem_reverse.1 (List.mem_of_mem_head? hc))
  rw [plainNumeral, hfirst, hlast, List.reverse_reverse]

/-- A numeral between blanks, with underscores between its digits and digits of any script, and
its value. -/
inductive Denotes : List Char → Float → Prop where
  | intro {s before body plain after : List Char} {x : Float}
      (around : s.map plainChar = before ++ (body ++ after))
      (blankBefore : ∀ c ∈ before, isNumeralBlank c = true)
      (blankAfter : ∀ c ∈ after, isNumeralBlank c = true) (grouped : Grouped body plain)
      (signed : Signed plain x) : Denotes s x

/-- A number is read from a text exactly if the text is a numeral for it. -/
theorem readNumber_eq_some_iff (s : String) (x : Float) :
    readNumber s = some x ↔ Denotes s.toList x := by
  constructor
  · intro h
    rw [readNumber] at h
    split at h
    · cases h
    · rename_i plain hplain
      obtain ⟨before, after, around, hbefore, hafter⟩ := plainNumeral_around s.toList
      exact .intro around hbefore hafter ((dropUnderscores_eq_some_iff _ _).1 hplain)
        ((signed_iff _ _).1 h)
  · rintro ⟨around, hbefore, hafter, grouped, signed⟩
    have hplain := plainNumeral_eq around hbefore hafter
      (fun c hc => isNumeralBlank_of_lt (grouped.lt_toNat signed.lt_toNat c hc))
      (grouped.ne_nil signed.ne_nil)
    rw [readNumber, hplain, (dropUnderscores_eq_some_iff _ _).2 grouped]
    exact (signed_iff _ _).2 signed

end CallAtlas.Decimal
