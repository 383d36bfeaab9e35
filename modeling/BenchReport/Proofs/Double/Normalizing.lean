import BenchReport.Proofs.Double.Nearest
import BenchReport.Proofs.Double.Packing
import Mathlib.Data.Nat.Cast.Order.Field

namespace BenchReport.Double

open Float.Model UnpackedFloat

def extended (num den : Nat) : ExtendedMantissa :=
  ⟨num / den, decide (den ≤ 2 * (num % den)),
    decide (2 * (num % den) ≠ 0 ∧ 2 * (num % den) ≠ den)⟩

theorem extended_one (m : Nat) : extended m 1 = ⟨m, false, false⟩ := by
  simp [extended, Nat.mod_one]

theorem shiftRightOne_extended (num den : Nat) (hden : 0 < den) :
    (extended num den).shiftRightOne = extended num (den * 2) := by
  have hlt := Nat.mod_lt num hden
  have hsplit : num % (den * 2) = num % den + den * (num / den % 2) := Nat.mod_mul
  have hbit : num / den % 2 = 0 ∨ num / den % 2 = 1 := Nat.mod_two_eq_zero_or_one _
  simp only [ExtendedMantissa.shiftRightOne, extended, ExtendedMantissa.mk.injEq]
  refine ⟨Nat.div_div_eq_div_mul num den 2, ?_, ?_⟩
  · rw [Bool.eq_iff_iff, bne_iff_ne, decide_eq_true_iff, hsplit]
    rcases hbit with hbit | hbit <;> rw [hbit] <;> omega
  · rw [← Bool.decide_or, decide_eq_decide, hsplit]
    rcases hbit with hbit | hbit <;> rw [hbit] <;> omega

theorem shiftRight_extended (num den n : Nat) (hden : 0 < den) :
    extended num den >>> n = extended num (den * 2 ^ n) := by
  induction n with
  | zero =>
    rw [Nat.pow_zero, Nat.mul_one]
    rfl
  | succ n ih =>
    have hstep : extended num den >>> (n + 1) = (extended num den >>> n).shiftRightOne := rfl
    rw [hstep, ih, shiftRightOne_extended _ _ (Nat.mul_pos hden (Nat.two_pow_pos n)), Nat.pow_succ,
      Nat.mul_assoc]

theorem roundedMantissa_extended (num den : Nat) :
    (extended num den).roundedMantissa = roundHalfEven num den := by
  unfold extended roundHalfEven
  generalize num / den = m
  generalize num % den = rest
  rcases Nat.lt_trichotomy (2 * rest) den with hlt | heq | hgt
  · have hround : ¬ den ≤ 2 * rest := by omega
    rw [decide_eq_false hround, if_pos (.inl hlt)]
    cases decide (2 * rest ≠ 0 ∧ 2 * rest ≠ den) <;> rfl
  · have hsticky : ¬ (2 * rest ≠ 0 ∧ 2 * rest ≠ den) := by omega
    rw [decide_eq_true heq.ge, decide_eq_false hsticky]
    change m + m % 2 = _
    split_ifs <;> omega
  · have hsticky : 2 * rest ≠ 0 ∧ 2 * rest ≠ den := by omega
    have hup : ¬ (2 * rest < den ∨ 2 * rest = den ∧ m % 2 = 0) := by omega
    rw [decide_eq_true hgt.le, decide_eq_true hsticky, if_neg hup]
    rfl

theorem targetExponent_eq (m : Nat) (e : Int) :
    Format.binary64.targetExponent (totalExponent m e) = lastPlace (m.log2 + e) := by
  unfold Format.targetExponent totalExponent lastPlace
  change max ((m.log2 : Int) + 1 + e - 53) (-1074) = _
  omega

theorem shiftToTargetExponent_extended (num den : Nat) (hden : 0 < den) (e : Int) (a : Accuracy)
    (ha : .ofMantissaAndAccuracy (num / den) a = extended num den)
    (he : e ≤ lastPlace ((num / den).log2 + e)) :
    shiftToTargetExponent .binary64 (num / den) e a =
      (extended num (den * 2 ^ (lastPlace ((num / den).log2 + e) - e).toNat),
        lastPlace ((num / den).log2 + e)) := by
  unfold shiftToTargetExponent shiftToExponent
  dsimp only
  rw [targetExponent_eq, ha, shiftRight_extended _ _ _ hden, Prod.mk.injEq]
  exact ⟨rfl, by omega⟩

theorem shiftToTargetExponent_kept (m : Nat) (e : Int) (hm : m < 2 ^ 53) (he : -1074 ≤ e) :
    shiftToTargetExponent .binary64 m e .exact = (⟨m, false, false⟩, e) := by
  have hlog : m.log2 < 53 := by
    rcases Nat.eq_zero_or_pos m with rfl | hpos
    · decide
    · exact (Nat.log2_lt hpos.ne').mpr hm
  have hshift : (lastPlace (m.log2 + e) - e).toNat = 0 := by
    unfold lastPlace
    omega
  unfold shiftToTargetExponent shiftToExponent
  dsimp only
  rw [targetExponent_eq, hshift, Int.ofNat_zero, Int.add_zero]
  rfl

theorem shiftToTargetExponent_carried (m : Nat) (e : Int) (hm : m = 2 ^ 53) (he : -1074 ≤ e) :
    shiftToTargetExponent .binary64 m e .exact = (⟨m / 2, m % 2 != 0, false⟩, e + 1) := by
  have hshift : (lastPlace (m.log2 + e) - e).toNat = 1 := by
    rw [hm, Nat.log2_two_pow]
    unfold lastPlace
    omega
  unfold shiftToTargetExponent shiftToExponent
  dsimp only
  rw [targetExponent_eq, hshift]
  rfl

theorem magnitude_carried (s : Sign) (m : Nat) (e : Int) (hm : m ≤ 2 ^ 53) (he : -1074 ≤ e)
    (hfull : 2 ^ 52 ≤ m ∨ e = -1074) (f : UnpackedFloat)
    (hf : f = if h : (shiftToTargetExponent .binary64 m e .exact).1.mantissa = 0 then .zero s
      else .finite s (shiftToTargetExponent .binary64 m e .exact).1.mantissa
        (shiftToTargetExponent .binary64 m e .exact).2 (Nat.pos_of_ne_zero h)) :
    (ofUnpacked f).magnitude = min infinity ((e + 1074).toNat * 0x10000000000000 + m) := by
  by_cases hcarry : m = 2 ^ 53
  · have hcanonical : Canonical (m / 2) (e + 1) := ⟨by omega, by omega, by omega, by omega⟩
    rw [shiftToTargetExponent_carried m e hcarry he, dif_neg hcanonical.pos.ne'] at hf
    rw [hf, ofUnpacked_finite s _ _ hcanonical]
    omega
  · rw [shiftToTargetExponent_kept m e (by omega) he] at hf
    by_cases hzero : m = 0
    · rw [dif_pos hzero] at hf
      rw [hf, ofUnpacked_zero s]
      omega
    · have hcanonical : Canonical m e := ⟨by omega, by omega, he, hfull⟩
      rw [dif_neg hzero] at hf
      rw [hf, ofUnpacked_finite s m e hcanonical]

section Rounding

variable {num den : Nat} {e : Int} {num' den' : Nat} (hden : 0 < den) (hnum' : 0 < num')
  (hden' : 0 < den') (hvalue : (num / den * 2 ^ e : ℚ) = num' / den')
  (he : e ≤ lastPlace ((num / den).log2 + e))

include hden hnum' hden' hvalue he

theorem lastPlace_floor :
    lastPlace ((num / den).log2 + e) = lastPlace (binaryOrder num' den') := by
  have hden₀ : (0 : ℚ) < den := by exact_mod_cast hden
  have hunit : (0 : ℚ) < 2 ^ e := zpow_pos two_pos e
  rcases Nat.eq_zero_or_pos (num / den) with hfloor | hfloor
  · have hlt : (num' / den' : ℚ) < 2 ^ e := by
      have hsmall : (num : ℚ) < den := by exact_mod_cast (Nat.div_eq_zero_iff_lt hden).mp hfloor
      rw [← hvalue]
      exact mul_lt_of_lt_one_left hunit ((div_lt_one hden₀).mpr hsmall)
    have horder := binaryOrder_lt num' den' hnum' hden' e hlt
    have hlog : (num / den).log2 = 0 := by rw [hfloor]; rfl
    rw [hlog] at he ⊢
    unfold lastPlace at *
    omega
  · have horder : binaryOrder num' den' = (num / den).log2 + e := by
      apply binaryOrder_unique num' den' hnum' hden'
      · rw [← hvalue, two_zpow_pow_mul]
        apply mul_le_mul_of_nonneg_right _ hunit.le
        calc (2 : ℚ) ^ (num / den).log2 ≤ (num / den : Nat) := by
              exact_mod_cast Nat.log2_self_le hfloor.ne'
          _ ≤ num / den := Nat.cast_div_le
      · rw [← hvalue, add_right_comm, ← Nat.cast_succ, two_zpow_pow_mul]
        apply mul_lt_mul_of_pos_right _ hunit
        rw [div_lt_iff₀ hden₀]
        have hfloor' : num < 2 ^ ((num / den).log2 + 1) * den :=
          (Nat.div_lt_iff_lt_mul hden).mp Nat.lt_log2_self
        exact_mod_cast hfloor'
    rw [horder]

theorem roundHalfEven_floor :
    roundHalfEven num (den * 2 ^ (lastPlace ((num / den).log2 + e) - e).toNat) =
      units num' den' (lastPlace (binaryOrder num' den')) := by
  rw [lastPlace_floor hden hnum' hden' hvalue he]
  rw [lastPlace_floor hden hnum' hden' hvalue he] at he
  generalize lastPlace (binaryOrder num' den') = p at he
  apply roundHalfEven_congr _ _ _ _ (Nat.mul_pos hden (Nat.two_pow_pos _)) (scale_pos den' hden' p)
  have hshift : (2 : ℚ) ^ (p - e).toNat = 2 ^ p / 2 ^ e := by
    rw [← zpow_natCast, ← zpow_sub₀ two_ne_zero, Int.toNat_of_nonneg (by omega)]
  rw [scale_eq, ← hvalue, Nat.cast_mul, Nat.cast_pow, Nat.cast_ofNat, hshift]
  have hunit : (2 : ℚ) ^ e ≠ 0 := zpow_ne_zero e two_ne_zero
  field_simp

end Rounding

theorem isNearest_roundWithAccuracy (s : Sign) (num den : Nat) (hnum : 0 < num) (hden : 0 < den)
    (e : Int) (a : Accuracy) (ha : .ofMantissaAndAccuracy (num / den) a = extended num den)
    (he : e ≤ lastPlace ((num / den).log2 + e)) :
    IsNearest (ofUnpacked (roundWithAccuracy .binary64 s (num / den) e a)) (num / den * 2 ^ e) := by
  have hnum' : 0 < num * 2 ^ (- -e).toNat := Nat.mul_pos hnum (Nat.two_pow_pos _)
  have hden' := scale_pos den hden (-e)
  have hvalue := scale_eq num den (-e)
  rw [zpow_neg, div_inv_eq_mul] at hvalue
  have horder := lastPlace_floor hden hnum' hden' hvalue.symm he
  have hround := roundHalfEven_floor hden hnum' hden' hvalue.symm he
  obtain ⟨hunits, hfull⟩ := units_lastPlace _ _ hnum' hden'
  refine ⟨_, _, hden', hvalue.symm, ?_⟩
  rw [nearestMagnitude_eq_units _ _ hnum']
  unfold roundWithAccuracy
  dsimp only
  rw [shiftToTargetExponent_extended num den hden e a ha he, roundedMantissa_extended, hround, horder]
  exact magnitude_carried s _ _ hunits (neg_le_lastPlace _) hfull _ rfl

theorem sign_roundWithAccuracy (s : Sign) (m : Nat) (e : Int) (a : Accuracy) :
    (ofUnpacked (roundWithAccuracy .binary64 s m e a)).sign = s := by
  unfold roundWithAccuracy
  dsimp only
  split_ifs
  · exact sign_ofUnpacked_zero s
  · exact sign_ofUnpacked_finite s _ _ _

theorem le_lastPlace_of_full (m : Nat) (e : Int) (h : 2 ^ 52 ≤ m ∨ e ≤ -1074) :
    e ≤ lastPlace (m.log2 + e) := by
  rcases h with h | h
  · have hlog : 52 ≤ m.log2 := (Nat.le_log2 (by omega)).mpr h
    unfold lastPlace
    omega
  · unfold lastPlace
    omega

theorem isNearest_roundExact (s : Sign) (m : Nat) (hm : 0 < m) (e : Int)
    (h : 2 ^ 52 ≤ m ∨ e ≤ -1074) :
    IsNearest (ofUnpacked (roundWithAccuracy .binary64 s m e .exact)) (m * 2 ^ e) := by
  have hround := isNearest_roundWithAccuracy s m 1 hm one_pos e .exact
  rw [Nat.div_one, extended_one, Nat.cast_one, div_one] at hround
  exact hround rfl (le_lastPlace_of_full m e h)

theorem pow_le_mul_pow (m k n : Nat) (hm : 0 < m) (h : n ≤ m.log2 + k) : 2 ^ n ≤ m * 2 ^ k :=
  calc 2 ^ n ≤ 2 ^ (m.log2 + k) := Nat.pow_le_pow_right two_pos h
    _ = 2 ^ m.log2 * 2 ^ k := Nat.pow_add 2 _ _
    _ ≤ m * 2 ^ k := Nat.mul_le_mul_right _ (Nat.log2_self_le hm.ne')

theorem two_pow_mul_zpow (k : Nat) (e : Int) : ((2 ^ k : Nat) : ℚ) * 2 ^ e = 2 ^ (k + e) := by
  rw [Nat.cast_pow, Nat.cast_ofNat, two_zpow_pow_mul]

theorem isNearest_round (s : Sign) (m : Nat) (hm : 0 < m) (e : Int) :
    IsNearest (ofUnpacked (round .binary64 s m e)) (m * 2 ^ e) := by
  unfold UnpackedFloat.round decreaseExponent
  dsimp only
  rw [targetExponent_eq, Nat.shiftLeft_eq]
  obtain ⟨k, hk⟩ : ∃ k, k = (e - lastPlace (m.log2 + e)).toNat := ⟨_, rfl⟩
  rw [← hk]
  have hvalue : (m * 2 ^ e : ℚ) = (m * 2 ^ k : Nat) * 2 ^ (e - k) := by
    rw [Nat.cast_mul, mul_assoc, two_pow_mul_zpow]
    congr 2
    omega
  rw [hvalue]
  apply isNearest_roundExact s _ (Nat.mul_pos hm (Nat.two_pow_pos k))
  rcases lastPlace_cases (m.log2 + e) with hplace | hplace
  · exact .inl (pow_le_mul_pow m k 52 hm (by omega))
  · exact .inr (by omega)

theorem ofMantissaAndAccuracy_fraction (num den : Nat) (hden : 0 < den) :
    .ofMantissaAndAccuracy (num / den) (accuracyOfFraction (num % den) den) =
      extended num den := by
  unfold accuracyOfFraction extended
  generalize num / den = m
  generalize num % den = rest
  by_cases hzero : rest = 0
  · have hround : ¬ den ≤ 2 * rest := by omega
    have hsticky : ¬ (2 * rest ≠ 0 ∧ 2 * rest ≠ den) := by omega
    rw [if_pos hzero, decide_eq_false hround, decide_eq_false hsticky]
    rfl
  · rw [if_neg hzero]
    rcases Nat.lt_trichotomy (2 * rest) den with hlt | heq | hgt
    · have hround : ¬ den ≤ 2 * rest := by omega
      have hsticky : 2 * rest ≠ 0 ∧ 2 * rest ≠ den := by omega
      rw [Nat.compare_eq_lt.mpr hlt, decide_eq_false hround, decide_eq_true hsticky]
      rfl
    · have hsticky : ¬ (2 * rest ≠ 0 ∧ 2 * rest ≠ den) := by omega
      rw [Nat.compare_eq_eq.mpr heq, decide_eq_true heq.ge, decide_eq_false hsticky]
      rfl
    · have hsticky : 2 * rest ≠ 0 ∧ 2 * rest ≠ den := by omega
      rw [Nat.compare_eq_gt.mpr hgt, decide_eq_true hgt.le, decide_eq_true hsticky]
      rfl

theorem isNearest_divCore (s : Sign) (m m' : Nat) (e e' : Int) (hm : 0 < m) (hm' : 0 < m') :
    IsNearest (ofUnpacked (roundWithAccuracy .binary64 s (divCore .binary64 m e m' e').1
      (divCore .binary64 m e m' e').2.1 (divCore .binary64 m e m' e').2.2))
      (m * 2 ^ e / (m' * 2 ^ e')) := by
  obtain ⟨place, hplace⟩ : ∃ place, place = min (e - e') (Format.binary64.targetExponent
    (totalExponent m e - totalExponent m' e')) := ⟨_, rfl⟩
  obtain ⟨k, hk⟩ : ∃ k, k = (e - e' - place).toNat := ⟨_, rfl⟩
  have hcore : divCore .binary64 m e m' e' =
      (m * 2 ^ k / m', place, accuracyOfFraction (m * 2 ^ k % m') m') := by
    unfold divCore
    dsimp only
    rw [Nat.shiftLeft_eq, ← hplace, ← hk]
  have hlast : place ≤ e - e' ∧
      (place ≤ m.log2 + e - (m'.log2 + e') - 53 ∨ place ≤ -1074) := by
    have htarget : Format.binary64.targetExponent (totalExponent m e - totalExponent m' e') =
        max (m.log2 + 1 + e - (m'.log2 + 1 + e') - 53) (-1074) := rfl
    omega
  have hvalue : (m * 2 ^ e / (m' * 2 ^ e') : ℚ) = (m * 2 ^ k : Nat) / m' * 2 ^ place := by
    have hshift : (2 : ℚ) ^ e / 2 ^ e' = (2 ^ k : Nat) * 2 ^ place := by
      rw [← zpow_sub₀ two_ne_zero, two_pow_mul_zpow]
      congr 1
      omega
    rw [mul_div_mul_comm, hshift, Nat.cast_mul]
    ring
  rw [hcore, hvalue]
  apply isNearest_roundWithAccuracy s _ m' (Nat.mul_pos hm (Nat.two_pow_pos k)) hm' place
  · exact ofMantissaAndAccuracy_fraction _ m' hm'
  · apply le_lastPlace_of_full
    rcases hlast.2 with hnormal | hlow
    · left
      rw [Nat.le_div_iff_mul_le hm']
      calc 2 ^ 52 * m' ≤ 2 ^ 52 * 2 ^ (m'.log2 + 1) := Nat.mul_le_mul_left _ Nat.lt_log2_self.le
        _ = 2 ^ (52 + (m'.log2 + 1)) := (Nat.pow_add 2 _ _).symm
        _ ≤ m * 2 ^ k := pow_le_mul_pow m k _ hm (by omega)
    · exact .inr hlow

theorem isNearest_zero (s : Sign) : IsNearest (ofUnpacked (.zero s)) 0 :=
  ⟨0, 1, one_pos, by simp, ofUnpacked_zero s⟩

theorem isNearest_normalize (m e : Int) (s : Sign) :
    IsNearest (ofUnpacked (UnpackedFloat.normalize .binary64 m e s)) (|(m : ℚ)| * 2 ^ e) := by
  unfold UnpackedFloat.normalize
  rw [← Int.cast_abs, ← Int.natCast_natAbs, Int.cast_natCast]
  rcases lt_trichotomy m 0 with hlt | rfl | hgt
  · have hneg : (-m).toNat = m.natAbs := by omega
    rw [compare_lt_iff_lt.mpr hlt]
    dsimp only
    rw [hneg]
    exact isNearest_round .negative _ (by omega) e
  · rw [Int.natAbs_zero, Nat.cast_zero, zero_mul]
    exact isNearest_zero s
  · have hpos : m.toNat = m.natAbs := by omega
    rw [compare_gt_iff_gt.mpr hgt]
    dsimp only
    rw [hpos]
    exact isNearest_round .positive _ (by omega) e

end BenchReport.Double
