import BenchReport.Decimal.Shortest
import BenchReport.Proofs.Double.Rounding

namespace BenchReport.Decimal

theorem figures_mul_pow (n k : Nat) (hn : 0 < n) (e : Int) :
    figures ⟨n * 10 ^ k, e⟩ = figures ⟨n, e⟩ ++ List.replicate k '0' := by
  induction k with
  | zero => simp [figures]
  | succ k ih =>
    have hpos : 0 < n * 10 ^ k := Nat.mul_pos hn (Nat.pow_pos (by decide))
    have happend := Nat.toDigits_append_toDigits (b := 10) (by decide) hpos (by decide : 0 < 10)
    simp only [figures, Nat.add_zero, Nat.toDigits_zero] at happend ih ⊢
    rw [Nat.pow_succ, ← Nat.mul_assoc, Nat.mul_comm _ 10, ← happend, ih, List.append_assoc,
      List.replicate_succ']

theorem point_mul_pow (n k : Nat) (hn : 0 < n) (e : Int) :
    point ⟨n * 10 ^ k, e⟩ = point ⟨n, e + k⟩ := by
  have hlength := congrArg List.length (figures_mul_pow n k hn e)
  rw [List.length_append, List.length_replicate] at hlength
  simp only [point, hlength]
  simp only [figures]
  omega

theorem nearest_mul_pow (n k : Nat) (e : Int) : nearest ⟨n * 10 ^ k, e⟩ = nearest ⟨n, e + k⟩ := by
  rcases Nat.eq_zero_or_pos n with rfl | hn
  · simp [nearest]
  · have hdigits : n * 10 ^ k ≠ 0 := (Nat.mul_pos hn (Nat.pow_pos (by decide))).ne'
    obtain ⟨j, hj⟩ : ∃ j, (-e).toNat = (-(e + k)).toNat + j := ⟨(-e).toNat - (-(e + k)).toNat, by omega⟩
    have hnum : numerator ⟨n * 10 ^ k, e⟩ = numerator ⟨n, e + k⟩ * 10 ^ j := by
      simp only [numerator, Nat.pow_eq, Nat.mul_assoc, ← Nat.pow_add]
      congr 2
      omega
    have hden : denominator ⟨n * 10 ^ k, e⟩ = denominator ⟨n, e + k⟩ * 10 ^ j := by
      simp only [denominator, hj, Nat.pow_eq, Nat.pow_add]
    have hround := Double.nearestMagnitude_mul_right (numerator ⟨n, e + k⟩) (denominator ⟨n, e + k⟩)
      (10 ^ j) (Nat.pow_pos (by decide)) (Nat.pow_pos (by decide))
    simp only [nearest, point_mul_pow n k hn e, hnum, hden, hround, hdigits, hn.ne']

theorem length_toDigits_mul_five (n m : Nat) (hn : 0 < n) (hlt : n < 2 ^ 53) (hm : m ≤ 1074) :
    m < (Nat.toDigits 10 (n * 5 ^ m)).length + 331 ∧
      (Nat.toDigits 10 (n * 5 ^ m)).length ≤ 310 + m := by
  constructor
  · by_cases hlarge : 331 < m
    · obtain ⟨j, rfl⟩ : ∃ j, m = 331 + j := ⟨m - 331, by omega⟩
      have hfive : 2 ^ j ≤ 5 ^ 331 :=
        (Nat.pow_le_pow_right (by decide) (by omega : j ≤ 743)).trans (by decide +kernel)
      have hlow : 10 ^ j ≤ n * 5 ^ (331 + j) := by
        calc 10 ^ j = 2 ^ j * 5 ^ j := by rw [← Nat.mul_pow]
          _ ≤ 5 ^ 331 * 5 ^ j := Nat.mul_le_mul_right _ hfive
          _ = 5 ^ (331 + j) := by rw [← Nat.pow_add]
          _ ≤ n * 5 ^ (331 + j) := Nat.le_mul_of_pos_left _ hn
      have hlength := mt (Nat.length_toDigits_le_iff (by decide) (by omega : 0 < j)).mp hlow.not_gt
      omega
    · have hpos : 0 < (Nat.toDigits 10 (n * 5 ^ m)).length := Nat.length_toDigits_pos
      omega
  · rw [Nat.length_toDigits_le_iff (by decide) (by omega), Nat.pow_add]
    calc n * 5 ^ m < 2 ^ 53 * 5 ^ m := Nat.mul_lt_mul_of_pos_right hlt (Nat.pow_pos (by decide))
      _ ≤ 10 ^ 310 * 10 ^ m :=
          Nat.mul_le_mul (by decide +kernel) (Nat.pow_le_pow_left (by decide) m)

theorem length_toDigits_mul_two (n m : Nat) (hlt : n < 2 ^ 53) (hm : m ≤ 971) :
    (Nat.toDigits 10 (n * 2 ^ m)).length ≤ 310 := by
  rw [Nat.length_toDigits_le_iff (by decide) (by decide)]
  calc n * 2 ^ m < 2 ^ 53 * 2 ^ m := Nat.mul_lt_mul_of_pos_right hlt (Nat.two_pow_pos m)
    _ ≤ 2 ^ 53 * 2 ^ 971 := Nat.mul_le_mul_left _ (Nat.pow_le_pow_right (by decide) hm)
    _ ≤ 10 ^ 310 := by decide +kernel

theorem exactly_point (x : Double) (h : x.isFinite) (hx : x.magnitude ≠ 0) :
    -330 ≤ (exactly x).point ∧ (exactly x).point ≤ 310 := by
  have hlow := x.neg_le_exponent
  have hhigh := x.exponent_le h
  unfold exactly
  split_ifs with hneg
  · have hlength := length_toDigits_mul_five _ (-x.exponent).toNat (x.significand_pos hx)
      x.significand_lt (by omega)
    simp only [point, figures, Nat.pow_eq]
    omega
  · have hlength := length_toDigits_mul_two _ x.exponent.toNat x.significand_lt (by omega)
    simp only [point, figures, Nat.pow_eq]
    omega

theorem exactly_nearest (x : Double) (h : x.isFinite) (hx : x.magnitude ≠ 0) :
    (exactly x).nearest = x.magnitude := by
  obtain ⟨hlow, hhigh⟩ := exactly_point x h hx
  have hpos := x.significand_pos hx
  have hround : Double.nearestMagnitude (exactly x).numerator (exactly x).denominator = x.magnitude := by
    rw [← Double.nearestMagnitude_self x h]
    unfold exactly
    split_ifs with hneg
    · have hnum : numerator ⟨x.significand * 5 ^ (-x.exponent).toNat, x.exponent⟩ =
          x.numerator * 5 ^ (-x.exponent).toNat := by
        simp [numerator, Double.numerator, Int.toNat_of_nonpos hneg.le]
      have hden : denominator ⟨x.significand * 5 ^ (-x.exponent).toNat, x.exponent⟩ =
          x.denominator * 5 ^ (-x.exponent).toNat := by
        simp only [denominator, Double.denominator, Nat.pow_eq, ← Nat.mul_pow]
      rw [Nat.pow_eq, hnum, hden]
      exact Double.nearestMagnitude_mul_right _ _ _ x.denominator_pos (Nat.pow_pos (by decide))
    · have hden : x.denominator = 1 := by
        simp [Double.denominator, Int.toNat_of_nonpos (show -x.exponent ≤ 0 by omega)]
      simp [numerator, denominator, Double.numerator, hden]
  have hdigits : (exactly x).digits ≠ 0 := by
    unfold exactly
    split_ifs <;> simp only [ne_eq, Nat.mul_eq_zero, Nat.pow_eq, Nat.pow_eq_zero] <;> omega
  simp only [nearest, hdigits, hlow.not_gt, hhigh.not_gt, or_self, if_false, hround]

theorem shortest_nearest (tie : Tie) (x : Double) (h : x.isFinite) :
    (shortest tie x).nearest = x.magnitude := by
  by_cases hx : x.magnitude = 0
  · simp [shortest, hx, nearest]
  · simp only [shortest, hx, if_false]
    split
    · rename_i d hfound
      obtain ⟨k, -, hk⟩ := List.exists_of_findSome?_eq_some hfound
      have hnearest : d.nearest = x.magnitude := by simpa using List.find?_some hk
      split_ifs with hten
      · have hmove := nearest_mul_pow 1 1 d.exponent
        rw [← hnearest]
        obtain ⟨digits, e⟩ := d
        subst hten
        exact hmove.symm
      · exact hnearest
    · exact exactly_nearest x h hx

end BenchReport.Decimal
