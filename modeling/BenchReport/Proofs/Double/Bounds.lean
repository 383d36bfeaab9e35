import BenchReport.Proofs.Double.Mean
import BenchReport.Proofs.Double.Operations

namespace BenchReport.Double

theorem two_zpow_lt {d e : Int} (h : d < e) : (2 : ℚ) ^ d < 2 ^ e :=
  zpow_lt_zpow_right₀ one_lt_two h

theorem exact_natCast_mul (k : Nat) (q : Int) (hk : k ≤ 2 ^ 53) (hq : -1074 ≤ q)
    (hlt : (k * 2 ^ q : ℚ) < 2 ^ (1024 : Int)) : Exact (k * 2 ^ q) :=
  ⟨⟨k, q, hk, hq, rfl⟩, hlt⟩

theorem exact_two_zpow (q : Int) (hq : -1074 ≤ q) (hlt : (2 : ℚ) ^ q < 2 ^ (1024 : Int)) :
    Exact (2 ^ q) :=
  ⟨⟨1, q, by omega, hq, by rw [Nat.cast_one, one_mul]⟩, hlt⟩

theorem exact_natCast (n : Nat) (h : n ≤ 2 ^ 53) : Exact n := by
  refine ⟨⟨n, 0, h, by omega, by rw [zpow_zero, mul_one]⟩, ?_⟩
  calc (n : ℚ) ≤ 2 ^ 53 := by exact_mod_cast h
    _ = 2 ^ (53 : Int) := (zpow_natCast 2 53).symm
    _ < 2 ^ (1024 : Int) := two_zpow_lt (by omega)

theorem size_natCast (n : Nat) (h : n ≤ 2 ^ 53) :
    (n : Double).isFinite ∧ (n : Double).size = n := by
  have hexact := exact_natCast n h
  obtain ⟨hfinite, hle⟩ := (natCast_isNearest n).le hexact le_rfl
  exact ⟨hfinite, le_antisymm hle ((natCast_isNearest n).ge hfinite hexact le_rfl)⟩

theorem one_le_size_natCast (n : Nat) (hpos : 0 < n) (h : n < 2 ^ 64) :
    (n : Double).isFinite ∧ 1 ≤ (n : Double).size := by
  have hone := exact_natCast 1 (by omega)
  have hfinite := ofNat_isFinite n h
  rw [Nat.cast_one] at hone
  exact ⟨hfinite, (natCast_isNearest n).ge hfinite hone (by exact_mod_cast hpos)⟩

theorem magnitude_ne_zero (x : Double) (h : 0 < x.size) : x.magnitude ≠ 0 := by
  intro hzero
  rw [size_of_magnitude_zero x hzero] at h
  exact lt_irrefl 0 h

theorem size_mono (x y : Double) (h : x.magnitude ≤ y.magnitude) : x.size ≤ y.size := by
  have hexponent : x.exponent ≤ y.exponent := by
    unfold exponent
    omega
  rw [size_eq, size_eq]
  rcases hexponent.lt_or_eq with hlt | heq
  · have hnormal : 2 ^ 52 ≤ y.significand := by
      unfold exponent at hlt
      unfold significand
      split_ifs <;> omega
    exact (le_units_of_lt x.significand_lt.le hlt).trans
      (mul_le_mul_of_nonneg_right (by exact_mod_cast hnormal) (zpow_pos two_pos _).le)
  · have hle : x.significand ≤ y.significand := by
      unfold exponent at heq
      unfold significand
      split_ifs <;> omega
    rw [heq]
    exact mul_le_mul_of_nonneg_right (by exact_mod_cast hle) (zpow_pos two_pos _).le

theorem mul_le (x y : Double) (hx : x.isFinite) (hy : y.isFinite) (w : ℚ) (hw : Exact w)
    (h : x.size * y.size ≤ w) : (x * y).isFinite ∧ (x * y).size ≤ w :=
  (mul_isNearest x y hx hy).le hw h

theorem add_le (x y : Double) (hx : x.isFinite) (hy : y.isFinite) (w : ℚ) (hw : Exact w)
    (h : x.size + y.size ≤ w) : (x + y).isFinite ∧ (x + y).size ≤ w := by
  apply (add_isNearest x y hx hy).le hw
  calc |x.value + y.value| ≤ |x.value| + |y.value| := abs_add_le _ _
    _ = x.size + y.size := by rw [abs_value, abs_value]
    _ ≤ w := h

theorem div_le (x y : Double) (hx : x.isFinite) (hy : y.isFinite) (hpos : 0 < y.size) (w : ℚ)
    (hw : Exact w) (h : x.size ≤ w * y.size) : (x / y).isFinite ∧ (x / y).size ≤ w :=
  (div_isNearest x y hx hy (magnitude_ne_zero y hpos)).le hw ((div_le_iff₀ hpos).mpr h)

theorem div_natCast_le (x : Double) (hx : x.isFinite) (n : Nat) (hpos : 0 < n) (h : n < 2 ^ 64) :
    (x / n).isFinite ∧ (x / n).size ≤ x.size := by
  obtain ⟨hfinite, hone⟩ := one_le_size_natCast n hpos h
  have hle := le_mul_of_one_le_right x.size_nonneg hone
  exact div_le x n hx hfinite (one_pos.trans_le hone) x.size (size_exact x hx) hle

theorem not_isFinite_div (x y : Double) (hx : x.isFinite = false) (hy : y.isFinite)
    (hzero : y.magnitude ≠ 0) : (x / y).isFinite = false := by
  cases hnan : x.isNaN with
  | true =>
    have hsame : x / y = x := if_pos hnan
    rw [hsame, hx]
  | false =>
    have hinfinite : x.magnitude = infinity := by
      have hge := mt x.isFinite_iff.mpr (by rw [hx]; exact Bool.false_ne_true)
      have hle := mt x.isNaN_iff.mpr (by rw [hnan]; exact Bool.false_ne_true)
      omega
    rw [div_eq_ofUnpacked x y hnan (isNaN_of_isFinite y hy), unpacked_infinity x hinfinite,
      unpacked_finite y hy hzero]
    have hquotient := ofUnpacked_infinity (x.sign / y.sign)
    exact decide_eq_false (hquotient ▸ Nat.lt_irrefl _)

section Sums

variable (xs : List Double) (q : Int) (hq : -1074 ≤ q)
  (hxs : ∀ x ∈ xs, x.isFinite ∧ x.size ≤ 2 ^ q)

include hq hxs

theorem foldl_add_le (start : Double) (k : Nat)
    (hstart : start.isFinite ∧ start.size ≤ k * 2 ^ q) (hk : k + xs.length ≤ 2 ^ 53)
    (hroom : ((k + xs.length : Nat) * 2 ^ q : ℚ) < 2 ^ (1024 : Int)) :
    (xs.foldl (· + ·) start).isFinite ∧
      (xs.foldl (· + ·) start).size ≤ (k + xs.length : Nat) * 2 ^ q := by
  -- `k` numbers are added up in `start`
  induction xs generalizing start k with
  | nil => exact hstart
  | cons x xs ih =>
    obtain ⟨hx, hxs⟩ := List.forall_mem_cons.mp hxs
    have hlength : k + (x :: xs).length = k + 1 + xs.length := by
      rw [List.length_cons]
      omega
    rw [hlength] at hk hroom ⊢
    have hpart : ((k + 1 : Nat) * 2 ^ q : ℚ) ≤ (k + 1 + xs.length : Nat) * 2 ^ q :=
      mul_le_mul_of_nonneg_right (by exact_mod_cast Nat.le_add_right _ _) (zpow_pos two_pos q).le
    have hexact := exact_natCast_mul (k + 1) q (by omega) hq (hpart.trans_lt hroom)
    have hsum : start.size + x.size ≤ (k + 1 : Nat) * 2 ^ q := by
      rw [Nat.cast_succ, add_one_mul]
      exact add_le_add hstart.2 hx.2
    exact ih hxs (start + x) (k + 1) (add_le start x hstart.1 hx.1 _ hexact hsum) hk hroom

theorem total_le (hlength : xs.length ≤ 2 ^ 53)
    (hroom : (xs.length * 2 ^ q : ℚ) < 2 ^ (1024 : Int)) :
    (total xs).isFinite ∧ (total xs).size ≤ xs.length * 2 ^ q := by
  have hzero : (0 : Double).isFinite ∧ (0 : Double).size ≤ (0 : Nat) * 2 ^ q := by
    obtain ⟨hfinite, hsize⟩ := size_natCast 0 (by omega)
    refine ⟨hfinite, ?_⟩
    rw [Nat.cast_zero, zero_mul]
    exact hsize.le
  have hsum := foldl_add_le xs q hq hxs 0 0 hzero (by omega)
  rw [Nat.zero_add] at hsum
  exact hsum hroom

theorem mean_le (hne : xs ≠ []) (hlength : xs.length ≤ 2 ^ 53)
    (hroom : (xs.length * 2 ^ q : ℚ) < 2 ^ (1024 : Int)) :
    (mean xs).isFinite ∧ (mean xs).size ≤ 2 ^ q := by
  have hpos : 0 < xs.length := List.length_pos_iff.mpr hne
  obtain ⟨hfinite, hsize⟩ := total_le xs q hq hxs hlength hroom
  obtain ⟨hcount, hvalue⟩ := size_natCast xs.length hlength
  have hunit : (2 ^ q : ℚ) ≤ xs.length * 2 ^ q :=
    le_mul_of_one_le_left (zpow_pos two_pos q).le (by exact_mod_cast hpos)
  have hexact := exact_two_zpow q hq (hunit.trans_lt hroom)
  apply div_le (total xs) xs.length hfinite hcount _ _ hexact
  · rw [hvalue, mul_comm]
    exact hsize
  · rw [hvalue]
    exact_mod_cast hpos

end Sums

theorem mean_isFinite_iff (xs : List Double) (hne : xs ≠ []) (hlength : xs.length < 2 ^ 64) :
    (mean xs).isFinite ↔ (total xs).isFinite := by
  have hpos : 0 < xs.length := List.length_pos_iff.mpr hne
  constructor
  · intro hmean
    by_contra hsum
    -- a count is finite and not 0, so dividing by it cannot bring an infinite sum back
    obtain ⟨hcount, hone⟩ := one_le_size_natCast xs.length hpos hlength
    have hzero := magnitude_ne_zero _ (one_pos.trans_le hone)
    have hquotient := not_isFinite_div (total xs) xs.length (by simpa using hsum) hcount hzero
    rw [mean, hquotient] at hmean
    cases hmean
  · intro hsum
    exact (div_natCast_le (total xs) hsum xs.length hpos hlength).1

end BenchReport.Double
