import BenchReport.Proofs.Double.Rounding
import Mathlib.Tactic.Linarith
/-!
The numbers on a scale of fractions. Rounding goes to a whole number of the units that the size of a
fraction leaves, and never past a number that has no need to be rounded.
-/

namespace BenchReport

theorem roundHalfEven_congr (a b c d : Nat) (hb : 0 < b) (hd : 0 < d)
    (h : (a / b : ℚ) = c / d) : roundHalfEven a b = roundHalfEven c d := by
  have hb' : (b : ℚ) ≠ 0 := by exact_mod_cast hb.ne'
  have hd' : (d : ℚ) ≠ 0 := by exact_mod_cast hd.ne'
  have hcross : a * d = c * b := by exact_mod_cast (div_eq_div_iff hb' hd').mp h
  rw [← roundHalfEven_mul_right a b d hd, ← roundHalfEven_mul_right c d b hb, hcross, Nat.mul_comm b]

namespace Double

def lastPlace (order : Int) : Int := max (order - 52) (-1074)

theorem neg_le_lastPlace (order : Int) : -1074 ≤ lastPlace order := Int.le_max_right _ _

theorem lastPlace_cases (order : Int) : lastPlace order = order - 52 ∨ lastPlace order = -1074 := by
  unfold lastPlace
  omega

def units (num den : Nat) (e : Int) : Nat :=
  roundHalfEven (num * 2 ^ (-e).toNat) (den * 2 ^ e.toNat)

theorem scale_pos (den : Nat) (hden : 0 < den) (e : Int) : 0 < den * 2 ^ e.toNat :=
  Nat.mul_pos hden (Nat.two_pow_pos _)

theorem scale_eq (num den : Nat) (e : Int) :
    ((num * 2 ^ (-e).toNat : Nat) : ℚ) / (den * 2 ^ e.toNat : Nat) = num / den / 2 ^ e := by
  have hpow := zpow_toNat 2 two_pos e
  have hunit : (2 : ℚ) ^ e ≠ 0 := zpow_ne_zero e two_ne_zero
  have hneg : ((2 ^ (-e).toNat : Nat) : ℚ) ≠ 0 := by exact_mod_cast (Nat.two_pow_pos _).ne'
  rw [Nat.cast_ofNat] at hpow
  rw [Nat.cast_mul, Nat.cast_mul, ← hpow, ← mul_assoc, mul_div_mul_right _ _ hneg, div_div]

section Units

variable (num den : Nat) (hden : 0 < den) (e : Int)

include hden

theorem units_le (n : Nat) (h : (num / den : ℚ) ≤ n * 2 ^ e) : units num den e ≤ n := by
  have hpos : (0 : ℚ) < (den * 2 ^ e.toNat : Nat) := by exact_mod_cast scale_pos den hden e
  rw [← div_le_iff₀ (zpow_pos two_pos e), ← scale_eq, div_le_iff₀ hpos] at h
  exact roundHalfEven_le _ _ n (scale_pos den hden e) (by exact_mod_cast h)

theorem le_units (n : Nat) (h : (n * 2 ^ e : ℚ) ≤ num / den) : n ≤ units num den e := by
  have hpos : (0 : ℚ) < (den * 2 ^ e.toNat : Nat) := by exact_mod_cast scale_pos den hden e
  rw [← le_div_iff₀ (zpow_pos two_pos e), ← scale_eq, le_div_iff₀ hpos] at h
  exact le_roundHalfEven _ _ n (scale_pos den hden e) (by exact_mod_cast h)

end Units

theorem two_zpow_le {d e : Int} (h : d ≤ e) : (2 : ℚ) ^ d ≤ 2 ^ e :=
  zpow_le_zpow_right₀ one_lt_two.le h

theorem units_lastPlace (num den : Nat) (hnum : 0 < num) (hden : 0 < den) :
    units num den (lastPlace (binaryOrder num den)) ≤ 2 ^ 53 ∧
      (2 ^ 52 ≤ units num den (lastPlace (binaryOrder num den)) ∨
        lastPlace (binaryOrder num den) = -1074) := by
  obtain ⟨hlow, hhigh⟩ := binaryOrder_spec num den hnum hden
  generalize binaryOrder num den = order at hlow hhigh
  constructor
  · apply units_le _ _ hden
    calc (num / den : ℚ) ≤ 2 ^ (order + 1) := hhigh.le
      _ ≤ 2 ^ (53 + lastPlace order) := two_zpow_le (by unfold lastPlace; omega)
      _ = (2 ^ 53 : Nat) * 2 ^ lastPlace order := by rw [zpow_add₀ two_ne_zero]; norm_cast
  · by_cases hsmall : lastPlace order = -1074
    · exact .inr hsmall
    · left
      apply le_units _ _ hden
      calc ((2 ^ 52 : Nat) : ℚ) * 2 ^ lastPlace order
          = 2 ^ (52 + lastPlace order) := by rw [zpow_add₀ two_ne_zero]; norm_cast
        _ ≤ 2 ^ order := two_zpow_le (by unfold lastPlace at *; omega)
        _ ≤ num / den := hlow

theorem nearestMagnitude_eq_units (num den : Nat) (hnum : 0 < num) :
    nearestMagnitude num den =
      min infinity ((lastPlace (binaryOrder num den) + 1074).toNat * 0x10000000000000 +
        units num den (lastPlace (binaryOrder num den))) := by
  rw [nearestMagnitude, if_neg hnum.ne']
  rfl

theorem nearestMagnitude_lt (n : Nat) (h : n < 2 ^ 64) : nearestMagnitude n 1 < infinity := by
  rcases Nat.eq_zero_or_pos n with rfl | hpos
  · decide
  · have horder : binaryOrder n 1 < 64 := by
      apply binaryOrder_lt n 1 hpos one_pos
      rw [Nat.cast_one, div_one]
      exact_mod_cast h
    -- the significand has at most 53 bits, and one more only when it carries
    obtain ⟨hunits, -⟩ := units_lastPlace n 1 hpos one_pos
    have hplace : lastPlace (binaryOrder n 1) ≤ 11 := by
      unfold lastPlace
      omega
    rw [nearestMagnitude_eq_units n 1 hpos]
    unfold infinity
    omega

theorem nearestMagnitude_eq_infinity (n k : Nat) (hk : 1024 ≤ k) (h : 2 ^ k ≤ n) :
    nearestMagnitude n 1 = infinity := by
  have hpos : 0 < n := (Nat.two_pow_pos k).trans_le h
  have horder : (k : Int) ≤ binaryOrder n 1 := by
    apply le_binaryOrder n 1 hpos one_pos
    rw [Nat.cast_one, div_one]
    exact_mod_cast h
  -- the smallest significand of such an order packs to infinity
  obtain ⟨-, hfull⟩ := units_lastPlace n 1 hpos one_pos
  have hplace : 972 ≤ lastPlace (binaryOrder n 1) := by
    unfold lastPlace
    omega
  rw [nearestMagnitude_eq_units n 1 hpos]
  unfold infinity
  omega

theorem ofNat_isFinite (n : Nat) (h : n < 2 ^ 64) : (ofNat n).isFinite := by
  have hlt := nearestMagnitude_lt n h
  rw [ofNat, isFinite, magnitude_ofMagnitude, decide_eq_true hlt]
  exact hlt.trans (by decide)

def size (x : Double) : ℚ := x.numerator / x.denominator

theorem size_nonneg (x : Double) : 0 ≤ x.size := div_nonneg (Nat.cast_nonneg _) (Nat.cast_nonneg _)

theorem size_eq (x : Double) : x.size = x.significand * 2 ^ x.exponent := x.numerator_div_denominator

theorem size_of_magnitude (x : Double) (m : Nat) (e : Int) (hm : m ≤ 2 ^ 53) (he : -1074 ≤ e)
    (hfull : 2 ^ 52 ≤ m ∨ e = -1074) (h : x.magnitude = (e + 1074).toNat * 0x10000000000000 + m) :
    x.size = m * 2 ^ e := by
  rw [size_eq]
  rcases hm.lt_or_eq with hlt | rfl
  · have hsignificand : x.significand = m := by
      rw [significand, h]
      split_ifs <;> omega
    have hexponent : x.exponent = e := by
      rw [exponent, h]
      omega
    rw [hsignificand, hexponent]
  · have hsignificand : x.significand = 2 ^ 52 := by
      rw [significand, h]
      split_ifs <;> omega
    have hexponent : x.exponent = e + 1 := by
      rw [exponent, h]
      omega
    rw [hsignificand, hexponent, zpow_add_one₀ two_ne_zero]
    push_cast
    ring

theorem two_zpow_pow_mul (n : Nat) (e : Int) : (2 : ℚ) ^ (n + e) = 2 ^ n * 2 ^ e := by
  rw [zpow_add₀ two_ne_zero, zpow_natCast]

structure Exact (v : ℚ) : Prop where
  form : ∃ (k : Nat) (q : Int), k ≤ 2 ^ 53 ∧ -1074 ≤ q ∧ v = k * 2 ^ q
  finite : v < 2 ^ (1024 : Int)

theorem size_exact (x : Double) (h : x.isFinite) : Exact x.size := by
  have hexponent := x.exponent_le h
  refine ⟨⟨x.significand, x.exponent, x.significand_lt.le, x.neg_le_exponent, x.size_eq⟩, ?_⟩
  calc x.size = x.significand * 2 ^ x.exponent := x.size_eq
    _ < 2 ^ 53 * 2 ^ x.exponent :=
        mul_lt_mul_of_pos_right (by exact_mod_cast x.significand_lt) (zpow_pos two_pos _)
    _ = 2 ^ (53 + x.exponent) := (two_zpow_pow_mul 53 _).symm
    _ ≤ 2 ^ (1024 : Int) := two_zpow_le (by omega)

theorem lt_infinity_of_lt (m : Nat) (e : Int) (hm : m ≤ 2 ^ 53) (hfull : 2 ^ 52 ≤ m ∨ e = -1074)
    (hlt : (m * 2 ^ e : ℚ) < 2 ^ (1024 : Int)) :
    (e + 1074).toNat * 0x10000000000000 + m < infinity := by
  have hroom (n : Nat) (hn : 2 ^ n ≤ m) : n + e < 1024 := by
    apply (zpow_lt_zpow_iff_right₀ (one_lt_two : (1 : ℚ) < 2)).mp
    calc (2 : ℚ) ^ (n + e) = 2 ^ n * 2 ^ e := two_zpow_pow_mul n e
      _ ≤ m * 2 ^ e := mul_le_mul_of_nonneg_right (by exact_mod_cast hn) (zpow_pos two_pos e).le
      _ < 2 ^ (1024 : Int) := hlt
  unfold infinity
  rcases hfull with hfull | rfl
  · have hplace := hroom 52 hfull
    by_cases hcarry : 2 ^ 53 ≤ m
    · have hcarried := hroom 53 hcarry
      omega
    · omega
  · omega

/-- The magnitude of the number is the one that is nearest to `v`. -/
def IsNearest (x : Double) (v : ℚ) : Prop :=
  ∃ num den : Nat, 0 < den ∧ v = num / den ∧ x.magnitude = nearestMagnitude num den

theorem size_of_magnitude_zero (x : Double) (h : x.magnitude = 0) : x.size = 0 := by
  simp [size_eq, significand, h]

theorem eq_units_of_le (k : Nat) {e q : Int} (h : e ≤ q) :
    (k * 2 ^ q : ℚ) = (k * 2 ^ (q - e).toNat : Nat) * 2 ^ e := by
  rw [Nat.cast_mul, Nat.cast_pow, mul_assoc, Nat.cast_ofNat, ← two_zpow_pow_mul]
  congr 2
  omega

theorem le_units_of_lt {k : Nat} (hk : k ≤ 2 ^ 53) {e q : Int} (h : q < e) :
    (k * 2 ^ q : ℚ) ≤ (2 ^ 52 : Nat) * 2 ^ e := by
  rw [Nat.cast_pow, Nat.cast_ofNat, ← two_zpow_pow_mul]
  calc (k * 2 ^ q : ℚ) ≤ 2 ^ 53 * 2 ^ q :=
        mul_le_mul_of_nonneg_right (by exact_mod_cast hk) (zpow_pos two_pos q).le
    _ = 2 ^ (53 + q) := (two_zpow_pow_mul 53 q).symm
    _ ≤ 2 ^ ((52 : Nat) + e) := two_zpow_le (by omega)

variable {x : Double} {v w : ℚ}

theorem IsNearest.le (h : IsNearest x v) (hw : Exact w) (hle : v ≤ w) : x.isFinite ∧ x.size ≤ w := by
  obtain ⟨num, den, hden, rfl, hmagnitude⟩ := h
  obtain ⟨⟨k, q, hk, hq, rfl⟩, hfinite⟩ := hw
  rcases Nat.eq_zero_or_pos num with rfl | hnum
  · have hzero : x.magnitude = 0 := hmagnitude
    refine ⟨decide_eq_true (hzero ▸ by decide), ?_⟩
    rw [size_of_magnitude_zero x hzero]
    exact mul_nonneg (Nat.cast_nonneg k) (zpow_pos two_pos q).le
  · have hlow := (binaryOrder_spec num den hnum hden).1
    obtain ⟨hunits, hfull⟩ := units_lastPlace num den hnum hden
    rw [nearestMagnitude_eq_units num den hnum] at hmagnitude
    have hplace := neg_le_lastPlace (binaryOrder num den)
    have horder := lastPlace_cases (binaryOrder num den)
    generalize lastPlace (binaryOrder num den) = e at hunits hfull hmagnitude hplace horder
    -- the bound is a whole number of units, as one with lower places would be below the fraction
    have hwhole : ∃ n : Nat, (k * 2 ^ q : ℚ) = n * 2 ^ e := by
      rcases le_or_gt e q with hfine | hcoarse
      · exact ⟨_, eq_units_of_le k hfine⟩
      · refine ⟨2 ^ 52, le_antisymm (le_units_of_lt hk hcoarse) ?_⟩
        have hfirst : ((52 : Nat) : Int) + e = binaryOrder num den := by omega
        rw [Nat.cast_pow, Nat.cast_ofNat, ← two_zpow_pow_mul, hfirst]
        exact hlow.trans hle
    obtain ⟨n, hn⟩ := hwhole
    have hbound : (units num den e * 2 ^ e : ℚ) ≤ k * 2 ^ q := by
      rw [hn] at hle ⊢
      exact mul_le_mul_of_nonneg_right (by exact_mod_cast units_le num den hden e n hle)
        (zpow_pos two_pos e).le
    have hlt := lt_infinity_of_lt _ e hunits hfull (hbound.trans_lt hfinite)
    rw [Nat.min_eq_right hlt.le] at hmagnitude
    refine ⟨decide_eq_true (hmagnitude ▸ hlt), ?_⟩
    rwa [size_of_magnitude x _ e hunits hplace hfull hmagnitude]

theorem IsNearest.ge (h : IsNearest x v) (hfinite : x.isFinite) (hw : Exact w) (hle : w ≤ v) :
    w ≤ x.size := by
  obtain ⟨num, den, hden, rfl, hmagnitude⟩ := h
  obtain ⟨⟨k, q, hk, hq, rfl⟩, -⟩ := hw
  rcases Nat.eq_zero_or_pos num with rfl | hnum
  · rw [Nat.cast_zero, zero_div] at hle
    exact hle.trans x.size_nonneg
  · obtain ⟨hunits, hfull⟩ := units_lastPlace num den hnum hden
    have hlt : x.magnitude < infinity := x.isFinite_iff.mp hfinite
    rw [nearestMagnitude_eq_units num den hnum] at hmagnitude
    have hplace := neg_le_lastPlace (binaryOrder num den)
    generalize lastPlace (binaryOrder num den) = e at hunits hfull hmagnitude hplace
    rw [size_of_magnitude x _ e hunits hplace hfull (by omega)]
    have hbound : ∃ n : Nat, (k * 2 ^ q : ℚ) ≤ n * 2 ^ e ∧ n ≤ units num den e := by
      rcases le_or_gt e q with hfine | hcoarse
      · rw [eq_units_of_le k hfine] at hle ⊢
        exact ⟨_, le_rfl, le_units num den hden e _ hle⟩
      · exact ⟨2 ^ 52, le_units_of_lt hk hcoarse, hfull.resolve_right (by omega)⟩
    obtain ⟨n, hn, hle⟩ := hbound
    exact hn.trans (mul_le_mul_of_nonneg_right (by exact_mod_cast hle) (zpow_pos two_pos e).le)

end Double

end BenchReport
