import CallAtlas.Proofs.Numerals
import Mathlib

/-!
# Whole numbers

The digits of a whole number stand for the 64 bit number that it is converted to.  Reading rounds a
quotient in one step, while the conversion shifts the mantissa bit by bit and keeps in two further
bits what falls out of it, and it treats numbers that fit into a mantissa in another way than larger
ones.  Both come down to the same quotient.
-/

namespace CallAtlas.Decimal

open Float.Model (Format UnpackedFloat totalExponent)
open Float.Model.UnpackedFloat

/-- A number that has been shifted, and the two bits that tell how much of it fell out. -/
structure Shifted (n k : Nat) (em : ExtendedMantissa) : Prop where
  mantissa : em.mantissa = n / 2 ^ k
  roundBit : em.roundBit = true ↔ 2 ^ k ≤ 2 * (n % 2 ^ k)
  stickyBit : em.stickyBit = true ↔ n % 2 ^ k ≠ 0 ∧ 2 * (n % 2 ^ k) ≠ 2 ^ k

theorem Shifted.shiftRightOne {n k : Nat} {em : ExtendedMantissa} (shifted : Shifted n k em) :
    Shifted n (k + 1) em.shiftRightOne := by
  have hsplit : n % 2 ^ (k + 1) = n % 2 ^ k + 2 ^ k * (n / 2 ^ k % 2) := Nat.mod_pow_succ
  have hrest : n % 2 ^ k < 2 ^ k := Nat.mod_lt _ (Nat.two_pow_pos k)
  have hpow : 2 ^ (k + 1) = 2 * 2 ^ k := by ring
  constructor
  · rw [ExtendedMantissa.shiftRightOne, shifted.mantissa, Nat.div_div_eq_div_mul, ← Nat.pow_succ]
  · rw [ExtendedMantissa.shiftRightOne, shifted.mantissa, hsplit, hpow, bne_iff_ne]
    rcases Nat.mod_two_eq_zero_or_one (n / 2 ^ k) with h | h <;> rw [h] <;> omega
  · rw [ExtendedMantissa.shiftRightOne, hsplit, hpow, Bool.or_eq_true, shifted.roundBit,
      shifted.stickyBit]
    rcases Nat.mod_two_eq_zero_or_one (n / 2 ^ k) with h | h <;> rw [h] <;> omega

theorem shifted_shiftRight (n k : Nat) :
    Shifted n k (ExtendedMantissa.ofMantissaAndAccuracy n .exact >>> k) := by
  induction k with
  | zero =>
      refine ⟨(Nat.div_one n).symm, ?_, ?_⟩
      · show false = true ↔ _
        simp [Nat.mod_one]
      · show false = true ↔ _
        simp [Nat.mod_one]
  | succ k ih => exact ih.shiftRightOne

theorem Shifted.roundedMantissa {n k : Nat} {em : ExtendedMantissa} (shifted : Shifted n k em) :
    em.roundedMantissa = roundDiv n (2 ^ k) := by
  obtain ⟨hmantissa, hround, hsticky⟩ := shifted
  obtain ⟨m, round, sticky⟩ := em
  dsimp only at hmantissa hround hsticky
  subst hmantissa
  have hpos := Nat.two_pow_pos k
  unfold roundDiv
  dsimp only
  cases round <;> cases sticky <;>
    simp only [Bool.false_eq_true, false_iff, true_iff] at hround hsticky <;>
    simp only [ExtendedMantissa.roundedMantissa, ExtendedMantissa.accuracy,
      Accuracy.roundToNearestEven] <;> split_ifs <;> omega

/-- The bits of a positive number with a full mantissa. -/
def normalBits (mantissa power : Nat) : BitVec Format.binary64.numBits :=
  packComponents .binary64 .positive (BitVec.ofNat 11 (power + 1)) (BitVec.ofNat 52 mantissa)

section

variable {m p : Nat}

theorem toNat_mantissa (hm : 2 ^ 52 ≤ m) (hm' : m < 2 ^ 53) :
    (BitVec.ofNat 52 m).toNat = m - 2 ^ 52 := by
  rw [BitVec.toNat_ofNat]
  omega

theorem toNat_exponent (hp : p < 2046) : (BitVec.ofNat 11 (p + 1)).toNat = p + 1 := by
  rw [BitVec.toNat_ofNat, Nat.mod_eq_of_lt (by omega)]

theorem toNat_normalBits (hm : 2 ^ 52 ≤ m) (hm' : m < 2 ^ 53) (hp : p < 2046) :
    (normalBits m p).toNat = p * 2 ^ 52 + m := by
  have hlt : m - 2 ^ 52 < 2 ^ 52 := by omega
  have hsign : (Sign.toBitVec .positive).toNat = 0 := rfl
  rw [normalBits, packComponents, BitVec.toNat_append, BitVec.toNat_append, toNat_mantissa hm hm',
    toNat_exponent hp, ← Nat.shiftLeft_add_eq_or_of_lt hlt, hsign, Nat.zero_shiftLeft, Nat.zero_or,
    Nat.shiftLeft_eq]
  omega

theorem toNat_full_mantissa (hm : 2 ^ 52 ≤ m) (hm' : m < 2 ^ 53) :
    (1#1 ++ BitVec.ofNat 52 m).toNat = m := by
  have hlt : m - 2 ^ 52 < 2 ^ 52 := by omega
  have hone : (1#1).toNat = 1 := rfl
  rw [BitVec.toNat_append, toNat_mantissa hm hm', ← Nat.shiftLeft_add_eq_or_of_lt hlt, hone,
    Nat.shiftLeft_eq]
  omega

theorem unpack_normalBits (hm : 2 ^ 52 ≤ m) (hm' : m < 2 ^ 53) (hp : p < 2046) (hpos : 0 < m) :
    unpack .binary64 (normalBits m p) = .finite .positive m (p - 1074) hpos := by
  have hexponent : unpackExponent (normalBits m p) = BitVec.ofNat 11 (p + 1) :=
    unpackExponent_packComponents
  have hmantissa : unpackMantissa (normalBits m p) = BitVec.ofNat 52 m :=
    unpackMantissa_packComponents
  have hsign : Sign.ofBitVec (unpackSign (normalBits m p)) = .positive := by
    rw [normalBits, unpackSign_packComponents]
    rfl
  have hones : BitVec.ofNat 11 (p + 1) ≠ -1#11 := by
    intro h
    have hnat : p + 1 = 2047 := (toNat_exponent hp).symm.trans (congrArg BitVec.toNat h)
    omega
  have hzero : BitVec.ofNat 11 (p + 1) ≠ 0#11 := by
    intro h
    have hnat : p + 1 = 0 := (toNat_exponent hp).symm.trans (congrArg BitVec.toNat h)
    omega
  have hbias : (Format.binary64.exponentBias : Int) = 1023 := rfl
  unfold unpack
  simp only [hexponent, hmantissa, hsign, if_neg hones, if_neg hzero, toNat_full_mantissa hm hm',
    toNat_exponent hp, hbias]
  congr 1
  omega

theorem pack_normal (hm : 2 ^ 52 ≤ m) (hm' : m < 2 ^ 53) (hp : p < 2046) (hpos : 0 < m) :
    pack .binary64 (.finite .positive m (p - 1074) hpos) = normalBits m p := by
  have hlog : m.log2 + 1 = Format.binary64.mantissaBits := by
    have hlog : m.log2 = 52 := (Nat.log2_eq_iff hpos.ne').2 ⟨hm, hm'⟩
    rw [hlog]
    rfl
  have hbias : (Format.binary64.exponentBias : Int) = 1023 := rfl
  have hbiased : ((p : Int) - 1074 + 1023 + 52).toNat = p + 1 := by omega
  unfold pack
  simp only [hbias, hlog, if_true]
  push_cast
  rw [hbiased, if_neg (by omega), normalBits]

theorem unpack_pack (hm : 2 ^ 52 ≤ m) (hm' : m < 2 ^ 53) (hp : p < 2046) (hpos : 0 < m) :
    (Float.Model.pack (.finite .positive m (p - 1074) hpos)).unpack =
      .finite .positive m (p - 1074) hpos := by
  have hunpack : (Float.Model.pack (.finite .positive m (p - 1074) hpos)).unpack =
    unpack .binary64 (pack .binary64 (.finite .positive m (p - 1074) hpos)) := rfl
  rw [hunpack, pack_normal hm hm' hp hpos, unpack_normalBits hm hm' hp hpos]

/-- A power that is too large makes a number infinite. -/
theorem pack_overflow (hp : 2046 ≤ p) (hpos : 0 < m) :
    Float.Model.pack (.finite .positive m (p - 1074) hpos) = .pack (.infinity .positive) := by
  have hbias : (Format.binary64.exponentBias : Int) = 1023 := rfl
  have hbits : pack .binary64 (.finite .positive m (p - 1074) hpos) =
      pack .binary64 (.infinity .positive) := by
    simp only [pack, hbias]
    push_cast
    rw [if_pos (by omega)]
  simp only [Float.Model.pack, hbits]

/-- Putting a full mantissa together packs it. -/
theorem assemble_eq_pack (hm : 2 ^ 52 ≤ m) (hm' : m < 2 ^ 53) (hpos : 0 < m) :
    assemble m p = .ofModel (.pack (.finite .positive m (p - 1074) hpos)) := by
  have htwo : twoTo 52 = 2 ^ 52 := rfl
  rw [assemble, htwo, if_neg (by omega)]
  dsimp only
  split
  · rename_i hover
    rw [pack_overflow (by omega) hpos]
    rfl
  · rename_i hover
    have hp : p < 2046 := by omega
    have hbits : (p * 2 ^ 52 + m).toUInt64.toBitVec = normalBits m p := by
      apply BitVec.eq_of_toNat_eq
      rw [toNat_normalBits hm hm' hp, UInt64.toNat_toBitVec, UInt64.toNat_ofNat']
      omega
    have hofBits : Float.ofBits (p * 2 ^ 52 + m).toUInt64 =
        .ofModel (.pack (unpack .binary64 (p * 2 ^ 52 + m).toUInt64.toBitVec)) := rfl
    rw [hofBits, hbits, unpack_normalBits hm hm' hp hpos]

theorem assemble_overflow (hm : 2 ^ 52 ≤ m) (hp : 2046 ≤ p) : assemble m p = infinity := by
  have htwo : twoTo 52 = 2 ^ 52 := rfl
  rw [assemble, htwo, if_neg (by omega)]
  dsimp only
  rw [if_pos (by omega)]

theorem assemble_carry (p : Nat) : assemble (2 ^ 53) p = assemble (2 ^ 52) (p + 1) := by
  have htwo : twoTo 52 = 2 ^ 52 := rfl
  have hsum : p * 2 ^ 52 + 2 ^ 53 = (p + 1) * 2 ^ 52 + 2 ^ 52 := by ring
  simp only [assemble, htwo, hsum]
  rfl

end

/-! ## Rounding to a full mantissa -/

theorem roundDiv_bounds {m k : Nat} (hm : m.log2 = 52 + k) :
    2 ^ 52 ≤ roundDiv m (2 ^ k) ∧ roundDiv m (2 ^ k) ≤ 2 ^ 53 := by
  have hne : m ≠ 0 := by
    rintro rfl
    rw [Nat.log2_zero] at hm
    omega
  obtain ⟨hlow, hhigh⟩ := (Nat.log2_eq_iff hne).1 hm
  have hpos := Nat.two_pow_pos k
  have hq : 2 ^ 52 ≤ m / 2 ^ k := (Nat.le_div_iff_mul_le hpos).2 (by rwa [← Nat.pow_add])
  have hq' : m / 2 ^ k < 2 ^ 53 := by
    rw [Nat.div_lt_iff_lt_mul hpos, ← Nat.pow_add]
    exact hhigh.trans_eq (by ring)
  unfold roundDiv
  dsimp only
  split_ifs <;> omega

theorem targetExponent_eq (m : Nat) (e : Int) :
    Format.binary64.targetExponent (totalExponent m e) = max (m.log2 + e - 52) (-1074) := by
  have hbits : (Format.binary64.mantissaBits : Int) = 53 := rfl
  have hleast : Format.binary64.minExponent = -1074 := rfl
  rw [Format.targetExponent, totalExponent, hbits, hleast]
  omega

theorem shiftToTargetExponent_eq {m k : Nat} {e : Int} (hm : m.log2 = 52 + k) (he : -1074 ≤ e + k) :
    shiftToTargetExponent .binary64 m e .exact =
      (ExtendedMantissa.ofMantissaAndAccuracy m .exact >>> k, e + k) := by
  have htarget : Format.binary64.targetExponent (totalExponent m e) = e + k := by
    rw [targetExponent_eq, hm]
    push_cast
    omega
  have hshift : (e + k - e).toNat = k := by omega
  rw [shiftToTargetExponent, htarget, shiftToExponent, hshift]

section

variable {m k p : Nat} {e : Int}

theorem roundWithAccuracy_eq {r : Nat} (hm : m.log2 = 52 + k) (he : -1074 ≤ e + k)
    (hr : roundDiv m (2 ^ k) = r) (hlt : r < 2 ^ 53) (hpos : 0 < r) :
    roundWithAccuracy .binary64 .positive m e .exact = .finite .positive r (e + k) hpos := by
  have hrounded := (shifted_shiftRight m k).roundedMantissa.trans hr
  have hlog : r.log2 = 52 + 0 :=
    (Nat.log2_eq_iff hpos.ne').2 ⟨hr ▸ (roundDiv_bounds hm).1, hlt⟩
  have hsecond : shiftToTargetExponent .binary64 r (e + k) .exact =
      (⟨r, false, false⟩, e + k + 0) := shiftToTargetExponent_eq hlog (by omega)
  unfold roundWithAccuracy
  simp only [shiftToTargetExponent_eq hm he, hrounded, hsecond, dif_neg hpos.ne', Int.add_zero]

/-- A mantissa that is rounded up to the next power of two takes one bit less. -/
theorem roundWithAccuracy_carry (hm : m.log2 = 52 + k) (he : -1074 ≤ e + k)
    (heq : roundDiv m (2 ^ k) = 2 ^ 53) :
    roundWithAccuracy .binary64 .positive m e .exact =
      .finite .positive (2 ^ 52) (e + k + 1) (by decide) := by
  have hrounded := (shifted_shiftRight m k).roundedMantissa
  have hsecond : shiftToTargetExponent .binary64 (2 ^ 53) (e + k) .exact =
      (⟨2 ^ 52, false, false⟩, e + k + 1) :=
    shiftToTargetExponent_eq (k := 1) Nat.log2_two_pow (by omega)
  have hne : ¬ (2 ^ 52 = 0) := by decide
  unfold roundWithAccuracy
  simp only [shiftToTargetExponent_eq hm he, hrounded, heq, hsecond, dif_neg hne]

/-- Rounding a mantissa and putting together the quotient give the same number. -/
theorem pack_roundWithAccuracy (hm : m.log2 = 52 + k) (he : e + k = p - 1074) :
    Float.ofModel (.pack (roundWithAccuracy .binary64 .positive m e .exact)) =
      assemble (roundDiv m (2 ^ k)) p := by
  obtain ⟨hlow, hhigh⟩ := roundDiv_bounds hm
  rcases hhigh.lt_or_eq with hlt | heq
  · have hpos : 0 < roundDiv m (2 ^ k) := by omega
    rw [roundWithAccuracy_eq hm (by omega) rfl hlt hpos, assemble_eq_pack hlow hlt hpos]
    simp only [he]
  · have hcarried : e + k + 1 = (p + 1 : Nat) - 1074 := by omega
    rw [roundWithAccuracy_carry hm (by omega) heq, heq, assemble_carry,
      assemble_eq_pack le_rfl (by decide) (by decide)]
    simp only [hcarried]

end

/-! ## Nearest numbers -/

theorem roundDiv_one (n : Nat) : roundDiv n 1 = n := by
  simp [roundDiv, Nat.mod_one]

theorem roundDiv_mul_right (a b : Nat) {c : Nat} (hc : 0 < c) :
    roundDiv (a * c) (b * c) = roundDiv a b := by
  have hleft : 2 * (a % b * c) < b * c ↔ 2 * (a % b) < b := by
    rw [← Nat.mul_assoc, Nat.mul_lt_mul_right hc]
  have hright : b * c < 2 * (a % b * c) ↔ b < 2 * (a % b) := by
    rw [← Nat.mul_assoc, Nat.mul_lt_mul_right hc]
  simp only [roundDiv, Nat.mul_div_mul_right _ _ hc, Nat.mul_mod_mul_right, hleft, hright]

theorem log2_mul_two_pow {n : Nat} (hn : n ≠ 0) (k : Nat) : (n * 2 ^ k).log2 = n.log2 + k := by
  refine (Nat.log2_eq_iff (Nat.mul_ne_zero hn (Nat.two_pow_pos k).ne')).2 ⟨?_, ?_⟩
  · rw [Nat.pow_add]
    exact Nat.mul_le_mul_right _ (Nat.log2_self_le hn)
  · rw [Nat.add_right_comm, Nat.pow_add]
    exact Nat.mul_lt_mul_of_pos_right Nat.lt_log2_self (Nat.two_pow_pos k)

/-- A whole number, filled up with zero bits to a full mantissa. -/
def filled (n : Nat) : Nat := n * 2 ^ (52 - n.log2)

section

variable {n : Nat}

theorem filled_ne_zero (hn : n ≠ 0) : filled n ≠ 0 :=
  Nat.mul_ne_zero hn (Nat.two_pow_pos _).ne'

theorem log2_filled (hn : n ≠ 0) : (filled n).log2 = 52 + (n.log2 - 52) := by
  rw [filled, log2_mul_two_pow hn]
  omega

theorem filled_bounds (hn : n ≠ 0) (h : n < 2 ^ 53) : 2 ^ 52 ≤ filled n ∧ filled n < 2 ^ 53 := by
  have hlog : n.log2 < 53 := (Nat.log2_lt hn).2 h
  refine (Nat.log2_eq_iff (filled_ne_zero hn)).1 ?_
  rw [log2_filled hn]
  omega

/-- The 64 bit number nearest to a whole number. -/
theorem nearest_whole (hn : n ≠ 0) :
    nearest n 1 = assemble (roundDiv (filled n) (2 ^ (n.log2 - 52))) (n.log2 + 1022) := by
  have hone : Nat.log2 1 = 0 := rfl
  have hsize : (n.log2 : Int) - (Nat.log2 1 : Int) = n.log2 := by
    rw [hone]
    omega
  have hfits : ¬ n * 2 ^ (-((n.log2 : Int) - 53)).toNat <
      1 * 2 ^ ((n.log2 : Int) - 53).toNat * 2 ^ 53 := by
    rw [Nat.one_mul, Nat.not_lt, ← Nat.pow_add]
    calc 2 ^ (((n.log2 : Int) - 53).toNat + 53)
        = 2 ^ n.log2 * 2 ^ (-((n.log2 : Int) - 53)).toNat := by
          rw [← Nat.pow_add]
          congr 1
          omega
      _ ≤ n * 2 ^ (-((n.log2 : Int) - 53)).toNat :=
          Nat.mul_le_mul_right _ (Nat.log2_self_le hn)
  have hdown : (-((n.log2 : Int) - 52)).toNat = 52 - n.log2 := by omega
  have hup : ((n.log2 : Int) - 52).toNat = n.log2 - 52 := by omega
  have hpower : ((n.log2 : Int) - 52 + 1074).toNat = n.log2 + 1022 := by omega
  have htwo : ∀ k, twoTo k = 2 ^ k := fun _ => rfl
  simp only [nearest, if_neg hn, hsize, htwo, hfits, decide_false, Bool.false_eq_true, if_false]
  rw [if_neg (by omega), hdown, hup, hpower, Nat.one_mul, filled]

/-- A whole number that does not fit into a mantissa is rounded as a product with a power of ten,
which is one. -/
theorem ofNat_large (h : 2 ^ 53 ≤ n) :
    Float.ofNat n = assemble (roundDiv n (2 ^ (n.log2 - 52))) (n.log2 + 1022) := by
  have hn : n ≠ 0 := by omega
  have hlog : 53 ≤ n.log2 := (Nat.le_log2 hn).2 h
  have hscientific : Float.ofNat n = .ofModel (.ofScientific n 0) :=
    dif_neg fun hsmall => absurd hsmall.1 (Nat.not_lt.2 h)
  have hproduct : ofScientific .binary64 n 0 =
      roundWithAccuracy .binary64 .positive (n <<< 53 * 10 ^ 0) (-53 + 0) .exact := by
    have hbelow : ¬ (0 : Int) < -(2 ^ Format.binary64.exponentBits + (n.log2 : Int)) := by
      have hbits : (0 : Int) ≤ 2 ^ Format.binary64.exponentBits := by decide
      omega
    unfold ofScientific
    rw [dif_neg hn, if_neg (by decide), if_neg hbelow, if_pos le_rfl]
    rfl
  have hlog' : (n * 2 ^ 53).log2 = 52 + (n.log2 + 1) := by
    rw [log2_mul_two_pow hn]
    omega
  have hexponent : (-53 + 0 : Int) + (n.log2 + 1 : Nat) = (n.log2 + 1022 : Nat) - 1074 := by
    push_cast
    omega
  have hscale : 2 ^ (n.log2 + 1) = 2 ^ (n.log2 - 52) * 2 ^ 53 := by
    rw [← Nat.pow_add]
    congr 1
    omega
  rw [hscientific, Float.Model.ofScientific, hproduct, Nat.pow_zero, Nat.mul_one, Nat.shiftLeft_eq,
    pack_roundWithAccuracy hlog' hexponent, hscale, roundDiv_mul_right _ _ (Nat.two_pow_pos 53)]

/-- A whole number that fits into a mantissa is not rounded. -/
theorem round_small (hn : n ≠ 0) (h : n < 2 ^ 53) (hpos : 0 < filled n) :
    round .binary64 .positive n 0 =
      .finite .positive (filled n) ((n.log2 + 1022 : Nat) - 1074) hpos := by
  have hlog : n.log2 < 53 := (Nat.log2_lt hn).2 h
  have hfull : (filled n).log2 = 52 + 0 := by
    rw [log2_filled hn]
    omega
  have htarget : Format.binary64.targetExponent (totalExponent n 0) = (n.log2 : Int) - 52 := by
    rw [targetExponent_eq]
    omega
  have hshift : (0 - ((n.log2 : Int) - 52)).toNat = 52 - n.log2 := by omega
  have hround : round .binary64 .positive n 0 =
      roundWithAccuracy .binary64 .positive (filled n) (0 - (52 - n.log2 : Nat)) .exact := by
    simp only [UnpackedFloat.round, decreaseExponent, htarget, hshift, Nat.shiftLeft_eq, filled]
  have hexponent : (0 - (52 - n.log2 : Nat) : Int) + (0 : Nat) = (n.log2 + 1022 : Nat) - 1074 := by
    push_cast
    omega
  rw [hround, roundWithAccuracy_eq hfull (by omega) (roundDiv_one _) (filled_bounds hn h).2 hpos]
  simp only [hexponent]

theorem unpack_toFloat (hn : n ≠ 0) (h : n < 2 ^ 53) (hpos : 0 < filled n) :
    n.toUInt64.toFloat.toModel.unpack =
      .finite .positive (filled n) ((n.log2 + 1022 : Nat) - 1074) hpos := by
  have hlog : n.log2 < 53 := (Nat.log2_lt hn).2 h
  have hnat : n.toUInt64.toNat = n := by
    rw [UInt64.toNat_ofNat', Nat.mod_eq_of_lt (by omega)]
  have hcompare : compare (n : Int) 0 = .gt := by
    rw [compare_gt_iff_gt]
    omega
  have hmodel : n.toUInt64.toFloat.toModel = .pack (round .binary64 .positive n 0) := by
    rw [UInt64.toFloat, Float.Model.ofUInt64, ofUInt64, hnat, ofNat, ofInt,
      UnpackedFloat.normalize, hcompare]
    rfl
  obtain ⟨hlow, hhigh⟩ := filled_bounds hn h
  rw [hmodel, round_small hn h hpos, unpack_pack hlow hhigh (by omega) hpos]

/-- A whole number that fits into a mantissa is multiplied with one. -/
theorem ofNat_small (hn : n ≠ 0) (h : n < 2 ^ 53) :
    Float.ofNat n = assemble (filled n) (n.log2 + 1022) := by
  have hlog : n.log2 < 53 := (Nat.log2_lt hn).2 h
  have hpos := Nat.pos_of_ne_zero (filled_ne_zero hn)
  have hproduct : Float.ofNat n = n.toUInt64.toFloat * Float.ofBits 0x3FF0000000000000 :=
    dif_pos ⟨h, by decide⟩
  have hone : (Float.ofBits 0x3FF0000000000000).toModel.unpack =
      .finite .positive (2 ^ 52) (-52) (by decide) := rfl
  have hmul : n.toUInt64.toFloat * Float.ofBits 0x3FF0000000000000 =
      .ofModel (.pack (mul .binary64 n.toUInt64.toFloat.toModel.unpack
        (Float.ofBits 0x3FF0000000000000).toModel.unpack)) := rfl
  have hround : mul .binary64 (.finite .positive (filled n) ((n.log2 + 1022 : Nat) - 1074) hpos)
      (.finite .positive (2 ^ 52) (-52) (by decide)) =
      roundWithAccuracy .binary64 .positive (filled n * 2 ^ 52)
        ((n.log2 + 1022 : Nat) - 1074 + -52) .exact := rfl
  have hlog' : (filled n * 2 ^ 52).log2 = 52 + 52 := by
    rw [log2_mul_two_pow hpos.ne', log2_filled hn]
    omega
  have hexponent : ((n.log2 + 1022 : Nat) - 1074 + -52 : Int) + (52 : Nat) =
      (n.log2 + 1022 : Nat) - 1074 := by
    push_cast
    omega
  have hscale : roundDiv (filled n * 2 ^ 52) (1 * 2 ^ 52) = filled n := by
    rw [roundDiv_mul_right _ _ (Nat.two_pow_pos 52), roundDiv_one]
  rw [Nat.one_mul] at hscale
  rw [hproduct, hmul, unpack_toFloat hn h hpos, hone, hround,
    pack_roundWithAccuracy hlog' hexponent, hscale]

/-- The conversion rounds a whole number in the same way, whether it fits into a mantissa or not. -/
theorem ofNat_eq_assemble (hn : n ≠ 0) :
    Float.ofNat n = assemble (roundDiv (filled n) (2 ^ (n.log2 - 52))) (n.log2 + 1022) := by
  by_cases h : n < 2 ^ 53
  · have hlog : n.log2 - 52 = 0 := Nat.sub_eq_zero_of_le (Nat.le_of_lt_succ ((Nat.log2_lt hn).2 h))
    rw [ofNat_small hn h, hlog, Nat.pow_zero, roundDiv_one]
  · have hlog : 53 ≤ n.log2 := (Nat.le_log2 hn).2 (Nat.not_lt.1 h)
    have hfilled : filled n = n := by
      rw [filled, Nat.sub_eq_zero_of_le (by omega), Nat.pow_zero, Nat.mul_one]
    rw [ofNat_large (Nat.not_lt.1 h), hfilled]

/-- The nearest number to a whole number is the one that it is converted to. -/
theorem nearestScaled_whole (n : Nat) : nearestScaled n 0 = Float.ofNat n := by
  by_cases hn : n = 0
  · subst hn
    rfl
  have hten : tenTo 0 = 1 := rfl
  have hbounds := roundDiv_bounds (log2_filled hn)
  unfold nearestScaled
  rw [if_neg hn, ofNat_eq_assemble hn]
  dsimp only
  split
  · rw [assemble_overflow hbounds.1 (by omega)]
  · rw [if_neg (by omega)]
    simp only [Int.toNat_zero, Int.neg_zero, hten, Nat.mul_one, nearest_whole hn]

theorem lt_of_compare {x y : Float}
    (h : x.toModel.unpack.compare y.toModel.unpack = some .lt) : x < y := by
  show decide _ = true
  exact decide_eq_true (beq_iff_eq.2 h)

theorem assemble_pos {m : Nat} (hm : 2 ^ 52 ≤ m) (hm' : m < 2 ^ 53) (p : Nat) :
    0 < assemble m p := by
  have hpos : 0 < m := by omega
  rw [assemble_eq_pack hm hm' hpos]
  apply lt_of_compare
  dsimp only
  by_cases hp : p < 2046
  · rw [unpack_pack hm hm' hp hpos]
    rfl
  · rw [pack_overflow (Nat.not_lt.1 hp) hpos]
    rfl

/-- A number that is not zero is converted to a positive number. -/
theorem ofNat_pos (hn : n ≠ 0) : 0 < Float.ofNat n := by
  obtain ⟨hlow, hhigh⟩ := roundDiv_bounds (log2_filled hn)
  rw [ofNat_eq_assemble hn]
  rcases hhigh.lt_or_eq with hlt | heq
  · exact assemble_pos hlow hlt _
  · rw [heq, assemble_carry]
    exact assemble_pos le_rfl (by decide) _

end

/-! ## Digits of whole numbers -/

theorem AllDigits.map_plainChar {s : List Char} (all : AllDigits s) : s.map plainChar = s := by
  refine (List.map_congr_left fun c hc => ?_).trans (List.map_id s)
  have hdigit := toNat_of_isDigit (all c hc)
  have hascii : c.val < 127 := UInt32.lt_iff_toNat_lt.2 (Nat.lt_of_le_of_lt hdigit.2 (by decide))
  exact if_pos hascii

theorem AllDigits.grouped {s : List Char} (all : AllDigits s) : Grouped s s := by
  induction s with
  | nil => exact .nil
  | cons c s ih =>
      obtain ⟨hc, hs⟩ := List.forall_mem_cons.1 all
      exact .keep (ne_underscore_of_isDigit hc) (ih hs)

theorem allDigits_toString (n : Nat) : AllDigits (toString n).toList := by
  intro c hc
  rw [Nat.toString_eq_repr, Nat.toList_repr] at hc
  exact Nat.isDigit_of_mem_toDigits (by decide) (by decide) hc

theorem digitsValue_toString (n : Nat) : digitsValue (toString n).toList = n := by
  rw [Nat.toString_eq_repr, Nat.toList_repr]
  exact Nat.ofDigitChars_ten_toDigits

/-- The digits of a whole number are read as the number that it is converted to. -/
theorem readNumber_toString (n : Nat) : readNumber (toString n) = some (Float.ofNat n) := by
  have all := allDigits_toString n
  have hsome : (toString n).toList ≠ [] := by
    rw [Nat.toString_eq_repr, Nat.toList_repr]
    exact Nat.toDigits_ne_nil
  have hsigned : Signed (toString n).toList
      (nearestScaled (digitsValue (toString n).toList) 0) := by
    have h := Signed.intro .none (.whole all hsome .none)
    simpa using h
  rw [digitsValue_toString, nearestScaled_whole] at hsigned
  have around : (toString n).toList.map plainChar = [] ++ ((toString n).toList ++ []) := by
    rw [all.map_plainChar, List.nil_append, List.append_nil]
  exact (readNumber_eq_some_iff _ _).2 (.intro around (List.forall_mem_nil _)
    (List.forall_mem_nil _) all.grouped hsigned)

end CallAtlas.Decimal
