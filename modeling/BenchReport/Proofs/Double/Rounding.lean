import BenchReport.Double.Rounding
import BenchReport.Proofs.Double.Order
import Mathlib.Data.Int.Log
import Mathlib.Data.Rat.Cast.Order
import Mathlib.Tactic.FieldSimp
import Mathlib.Tactic.Ring

namespace BenchReport

theorem roundHalfEven_mul_right (num den k : Nat) (hk : 0 < k) :
    roundHalfEven (num * k) (den * k) = roundHalfEven num den := by
  unfold roundHalfEven
  rw [Nat.mul_div_mul_right _ _ hk, Nat.mul_mod_mul_right, ← Nat.mul_assoc]
  simp only [Nat.mul_lt_mul_right hk, Nat.mul_left_inj hk.ne']

theorem roundHalfEven_mul_self (n den : Nat) (hden : 0 < den) : roundHalfEven (n * den) den = n := by
  simp [roundHalfEven, Nat.mul_div_cancel _ hden, hden]

theorem roundHalfEven_le (num den n : Nat) (hden : 0 < den) (h : num ≤ n * den) :
    roundHalfEven num den ≤ n := by
  rcases h.eq_or_lt with rfl | hlt
  · exact (roundHalfEven_mul_self n den hden).le
  · have hfloor : num / den < n := (Nat.div_lt_iff_lt_mul hden).mpr hlt
    unfold roundHalfEven
    split_ifs <;> omega

theorem le_roundHalfEven (num den n : Nat) (hden : 0 < den) (h : n * den ≤ num) :
    n ≤ roundHalfEven num den := by
  have hfloor : n ≤ num / den := (Nat.le_div_iff_mul_le hden).mpr h
  unfold roundHalfEven
  split_ifs <;> omega

namespace Double

theorem zpow_toNat (b : Nat) (hb : 0 < b) (e : Int) :
    (b : ℚ) ^ e * (b ^ (-e).toNat : Nat) = (b ^ e.toNat : Nat) := by
  have hb' : (b : ℚ) ≠ 0 := by exact_mod_cast hb.ne'
  rw [Nat.cast_pow, Nat.cast_pow, ← zpow_natCast, ← zpow_natCast, ← zpow_add₀ hb']
  congr 1
  omega

theorem below_iff (b num den : Nat) (hb : 0 < b) (hden : 0 < den) (e : Int) :
    below b num den e = true ↔ (num / den : ℚ) < b ^ e := by
  have hden' : (0 : ℚ) < den := by exact_mod_cast hden
  have hpow : (0 : ℚ) < (b ^ (-e).toNat : Nat) := by exact_mod_cast Nat.pow_pos hb
  rw [below, decide_eq_true_iff, div_lt_iff₀ hden', ← mul_lt_mul_iff_left₀ hpow,
    mul_right_comm, zpow_toNat b hb e, mul_comm _ (den : ℚ)]
  exact_mod_cast Iff.rfl

theorem log2_spec (num den : Nat) (hnum : 0 < num) (hden : 0 < den) :
    (2 : ℚ) ^ ((num.log2 : Int) - den.log2 - 1) ≤ num / den ∧
      (num / den : ℚ) < 2 ^ ((num.log2 : Int) - den.log2 + 1) := by
  have hden' : (0 : ℚ) < den := by exact_mod_cast hden
  have hnum₁ : (2 : ℚ) ^ (num.log2 : Int) ≤ num := by
    exact_mod_cast Nat.log2_self_le hnum.ne'
  have hnum₂ : (num : ℚ) < 2 ^ ((num.log2 : Int) + 1) := by exact_mod_cast Nat.lt_log2_self
  have hden₁ : (2 : ℚ) ^ (den.log2 : Int) ≤ den := by
    exact_mod_cast Nat.log2_self_le hden.ne'
  have hden₂ : (den : ℚ) < 2 ^ ((den.log2 : Int) + 1) := by exact_mod_cast Nat.lt_log2_self
  have hpos (e : Int) : (0 : ℚ) < 2 ^ e := zpow_pos two_pos e
  constructor
  · rw [le_div_iff₀ hden']
    calc (2 : ℚ) ^ ((num.log2 : Int) - den.log2 - 1) * den
        ≤ 2 ^ ((num.log2 : Int) - den.log2 - 1) * 2 ^ ((den.log2 : Int) + 1) :=
          mul_le_mul_of_nonneg_left hden₂.le (hpos _).le
      _ = 2 ^ (num.log2 : Int) := by rw [← zpow_add₀ two_ne_zero]; congr 1; ring
      _ ≤ num := hnum₁
  · rw [div_lt_iff₀ hden']
    calc (num : ℚ) < 2 ^ ((num.log2 : Int) + 1) := hnum₂
      _ = 2 ^ ((num.log2 : Int) - den.log2 + 1) * 2 ^ (den.log2 : Int) := by
          rw [← zpow_add₀ two_ne_zero]; congr 1; ring
      _ ≤ 2 ^ ((num.log2 : Int) - den.log2 + 1) * den :=
          mul_le_mul_of_nonneg_left hden₁ (hpos _).le

theorem binaryOrder_spec (num den : Nat) (hnum : 0 < num) (hden : 0 < den) :
    (2 : ℚ) ^ binaryOrder num den ≤ num / den ∧
      (num / den : ℚ) < 2 ^ (binaryOrder num den + 1) := by
  obtain ⟨hlow, hhigh⟩ := log2_spec num den hnum hden
  have hbelow := below_iff 2 num den two_pos hden ((num.log2 : Int) - den.log2)
  unfold binaryOrder
  dsimp only
  split_ifs with h
  · exact ⟨hlow, by simpa using hbelow.mp h⟩
  · exact ⟨by simpa using mt hbelow.mpr h, hhigh⟩

theorem binaryOrder_lt (num den : Nat) (hnum : 0 < num) (hden : 0 < den) (e : Int)
    (h : (num / den : ℚ) < 2 ^ e) : binaryOrder num den < e :=
  (zpow_lt_zpow_iff_right₀ one_lt_two).mp ((binaryOrder_spec num den hnum hden).1.trans_lt h)

theorem le_binaryOrder (num den : Nat) (hnum : 0 < num) (hden : 0 < den) (e : Int)
    (h : (2 : ℚ) ^ e ≤ num / den) : e ≤ binaryOrder num den :=
  Int.le_of_lt_add_one <|
    (zpow_lt_zpow_iff_right₀ one_lt_two).mp (h.trans_lt (binaryOrder_spec num den hnum hden).2)

theorem binaryOrder_unique (num den : Nat) (hnum : 0 < num) (hden : 0 < den) (e : Int)
    (hlow : (2 : ℚ) ^ e ≤ num / den) (hhigh : (num / den : ℚ) < 2 ^ (e + 1)) :
    binaryOrder num den = e := by
  have hle := le_binaryOrder num den hnum hden e hlow
  have hlt := binaryOrder_lt num den hnum hden (e + 1) hhigh
  omega

theorem binaryOrder_mul_right (num den k : Nat) (hnum : 0 < num) (hden : 0 < den) (hk : 0 < k) :
    binaryOrder (num * k) (den * k) = binaryOrder num den := by
  have hk' : (k : ℚ) ≠ 0 := by exact_mod_cast hk.ne'
  have heq : ((num * k : Nat) : ℚ) / (den * k : Nat) = num / den := by
    push_cast
    exact mul_div_mul_right _ _ hk'
  obtain ⟨hlow, hhigh⟩ := binaryOrder_spec num den hnum hden
  apply binaryOrder_unique _ _ (Nat.mul_pos hnum hk) (Nat.mul_pos hden hk)
  · rwa [heq]
  · rwa [heq]

theorem nearestMagnitude_mul_right (num den k : Nat) (hden : 0 < den) (hk : 0 < k) :
    nearestMagnitude (num * k) (den * k) = nearestMagnitude num den := by
  rcases Nat.eq_zero_or_pos num with rfl | hnum
  · simp [nearestMagnitude]
  · have hne : num * k ≠ 0 := (Nat.mul_pos hnum hk).ne'
    simp only [nearestMagnitude, hne, hnum.ne', if_false, binaryOrder_mul_right num den k hnum hden hk]
    simp only [Nat.mul_right_comm _ k, roundHalfEven_mul_right _ _ k hk]

section Parts

variable (x : Double)

theorem significand_pos (h : x.magnitude ≠ 0) : 0 < x.significand := by
  unfold significand
  split_ifs <;> omega

theorem significand_lt : x.significand < 2 ^ 53 := by
  unfold significand
  split_ifs <;> omega

theorem neg_le_exponent : -1074 ≤ x.exponent := by
  unfold exponent
  omega

theorem exponent_le (h : x.isFinite) : x.exponent ≤ 971 := by
  have hlt := x.isFinite_iff.mp h
  unfold infinity at hlt
  unfold exponent
  omega

theorem magnitude_eq :
    (x.exponent + 1074).toNat * 0x10000000000000 + x.significand = x.magnitude := by
  unfold significand exponent
  split_ifs <;> omega

theorem numerator_pos (h : x.magnitude ≠ 0) : 0 < x.numerator :=
  Nat.mul_pos (x.significand_pos h) (Nat.two_pow_pos _)

theorem denominator_pos : 0 < x.denominator := Nat.two_pow_pos _

end Parts

theorem numerator_div_denominator (x : Double) :
    (x.numerator / x.denominator : ℚ) = x.significand * 2 ^ x.exponent := by
  have hden : (x.denominator : ℚ) ≠ 0 := by exact_mod_cast x.denominator_pos.ne'
  have hpow := zpow_toNat 2 two_pos x.exponent
  rw [div_eq_iff hden, mul_assoc]
  change _ = _ * ((2 : ℚ) ^ x.exponent * ((2 ^ (-x.exponent).toNat : Nat) : ℚ))
  rw [← Nat.cast_ofNat (n := 2), hpow, numerator, Nat.pow_eq, Nat.cast_mul]

theorem lastPlace_eq (x : Double) (h : x.magnitude ≠ 0) :
    max (binaryOrder x.numerator x.denominator - 52) (-1074) = x.exponent := by
  have hvalue := x.numerator_div_denominator
  have hnum := x.numerator_pos h
  have hexp : (0 : ℚ) < 2 ^ x.exponent := zpow_pos two_pos _
  by_cases hnormal : x.magnitude < 0x10000000000000
  · have hexponent : x.exponent = -1074 := by
      unfold exponent
      omega
    have hsig : x.significand < 2 ^ 52 := by
      rw [significand, if_pos hnormal]
      omega
    have hlt : (x.numerator / x.denominator : ℚ) < 2 ^ (-1022 : Int) := by
      rw [hvalue, hexponent]
      calc (x.significand : ℚ) * 2 ^ (-1074 : Int) < 2 ^ 52 * 2 ^ (-1074 : Int) := by
            apply mul_lt_mul_of_pos_right _ (zpow_pos two_pos _)
            exact_mod_cast hsig
        _ = 2 ^ (-1022 : Int) := by rw [← zpow_natCast, ← zpow_add₀ two_ne_zero]; rfl
    have horder := binaryOrder_lt _ _ hnum x.denominator_pos _ hlt
    omega
  · have hsig : 2 ^ 52 ≤ x.significand ∧ x.significand < 2 ^ 53 := by
      simp only [significand, hnormal, if_false]
      omega
    have horder : binaryOrder x.numerator x.denominator = x.exponent + 52 := by
      apply binaryOrder_unique _ _ hnum x.denominator_pos
      · rw [hvalue, zpow_add₀ two_ne_zero, mul_comm]
        apply mul_le_mul_of_nonneg_right _ hexp.le
        exact_mod_cast hsig.1
      · rw [hvalue, add_assoc, zpow_add₀ two_ne_zero, mul_comm]
        apply mul_lt_mul_of_pos_left _ hexp
        exact_mod_cast hsig.2
    have hexponent := x.neg_le_exponent
    omega

theorem nearestMagnitude_self (x : Double) (h : x.isFinite) :
    nearestMagnitude x.numerator x.denominator = x.magnitude := by
  have hfinite := x.isFinite_iff.mp h
  by_cases hzero : x.magnitude = 0
  · simp [nearestMagnitude, numerator, significand, hzero]
  · have hnum := (x.numerator_pos hzero).ne'
    have hround : roundHalfEven (x.numerator * 2 ^ (-x.exponent).toNat)
        (x.denominator * 2 ^ x.exponent.toNat) = x.significand := by
      rw [numerator, denominator, Nat.pow_eq, Nat.pow_eq, Nat.mul_assoc,
      Nat.mul_comm (2 ^ (-x.exponent).toNat)]
      exact roundHalfEven_mul_self _ _ (Nat.mul_pos (Nat.two_pow_pos _) (Nat.two_pow_pos _))
    simp only [nearestMagnitude, hnum, if_false, lastPlace_eq x hzero, Nat.pow_eq, hround,
      x.magnitude_eq]
    exact Nat.min_eq_right hfinite.le

theorem nearestMagnitude_le_infinity (num den : Nat) : nearestMagnitude num den ≤ infinity := by
  unfold nearestMagnitude
  split_ifs
  · exact Nat.zero_le _
  · exact Nat.min_le_left _ _

theorem nearestMagnitude_one_pos (n : Nat) (h : 0 < n) : 0 < nearestMagnitude n 1 := by
  have horder : 0 ≤ binaryOrder n 1 := by
    apply le_binaryOrder n 1 h one_pos 0
    rw [zpow_zero, Nat.cast_one, div_one]
    exact_mod_cast h
  simp only [nearestMagnitude, h.ne', if_false, infinity]
  omega

theorem zero_lt_ofMagnitude (m : Nat) (hpos : 0 < m) (hm : m ≤ infinity) :
    (0 : Double) < ofMagnitude false m := by
  have hlt : m < 2 ^ 63 := hm.trans_lt (by decide)
  have hmagnitude := magnitude_ofMagnitude false m hlt
  have hnumber : (ofMagnitude false m).isNaN = false := by
    rw [isNaN, hmagnitude]
    exact decide_eq_false hm.not_gt
  have hlevel : (ofMagnitude false m).level = m := by
    rw [level, negative_ofMagnitude false m hlt, if_neg Bool.false_ne_true, hmagnitude]
  have hzero : (0 : Double).level = 0 := by decide
  refine ⟨by decide, hnumber, ?_⟩
  rw [hzero, hlevel]
  exact_mod_cast hpos

theorem natCast_pos (n : Nat) (h : 0 < n) : (0 : Double) < (n : Double) :=
  zero_lt_ofMagnitude _ (nearestMagnitude_one_pos n h) (nearestMagnitude_le_infinity n 1)

end Double

end BenchReport
