import BenchReport.Proofs.Double.Bounds

namespace BenchReport.Double

theorem sign_eq_positive_iff (x : Double) : x.sign = .positive ↔ x.negative = false := by
  unfold sign
  cases x.negative <;> simp

theorem not_negative_of_pos {x : Double} (h : 0 < x) : x.negative = false := by
  have hlevel : 0 < x.level := h.2.2
  unfold level at hlevel
  split_ifs at hlevel with hnegative
  · omega
  · simpa using hnegative

theorem IsNearest.isNaN {x : Double} {v : ℚ} (h : IsNearest x v) : x.isNaN = false := by
  obtain ⟨num, den, -, -, hmagnitude⟩ := h
  have hle := nearestMagnitude_le_infinity num den
  exact decide_eq_false (by omega)

section Finite

variable {x y : Double} (hx : x.isFinite) (hy : y.isFinite)

include hx hy

theorem magnitude_eq_of_size_eq (h : x.size = y.size) : x.magnitude = y.magnitude := by
  have hxden : (x.denominator : ℚ) ≠ 0 := by exact_mod_cast x.denominator_pos.ne'
  have hyden : (y.denominator : ℚ) ≠ 0 := by exact_mod_cast y.denominator_pos.ne'
  have hcross : x.numerator * y.denominator = y.numerator * x.denominator := by
    exact_mod_cast (div_eq_div_iff hxden hyden).mp h
  calc x.magnitude = nearestMagnitude x.numerator x.denominator := (nearestMagnitude_self x hx).symm
    _ = nearestMagnitude (x.numerator * y.denominator) (x.denominator * y.denominator) :=
        (nearestMagnitude_mul_right _ _ _ x.denominator_pos y.denominator_pos).symm
    _ = nearestMagnitude (y.numerator * x.denominator) (y.denominator * x.denominator) := by
        rw [hcross, Nat.mul_comm x.denominator]
    _ = nearestMagnitude y.numerator y.denominator :=
        nearestMagnitude_mul_right _ _ _ y.denominator_pos x.denominator_pos
    _ = y.magnitude := nearestMagnitude_self y hy

theorem magnitude_le_of_size_le (h : x.size ≤ y.size) : x.magnitude ≤ y.magnitude := by
  rcases Nat.le_total x.magnitude y.magnitude with hle | hge
  · exact hle
  · exact (magnitude_eq_of_size_eq hx hy (h.antisymm (size_mono y x hge))).le

theorem le_mul_of_one_le_size (hpos : 0 < x) (hfactor : 0 < y) (hone : 1 ≤ y.size) :
    x ≤ x * y := by
  have hnearest := mul_isNearest x y hx hy
  have hxsign := not_negative_of_pos hpos
  have hsign : (x * y).negative = false := by
    have hysign := not_negative_of_pos hfactor
    rw [← sign_eq_positive_iff] at hxsign hysign ⊢
    rw [mul_sign x y hx hy, hxsign, hysign]
    rfl
  have hmagnitude : x.magnitude ≤ (x * y).magnitude := by
    cases hfinite : (x * y).isFinite with
    | true =>
      have hge := le_mul_of_one_le_right x.size_nonneg hone
      exact magnitude_le_of_size_le hx hfinite (hnearest.ge hfinite (size_exact x hx) hge)
    | false =>
      -- the product has grown to infinity
      have hlt := x.isFinite_iff.mp hx
      have hnot := mt (x * y).isFinite_iff.mpr (by rw [hfinite]; exact Bool.false_ne_true)
      omega
  refine ⟨isNaN_of_isFinite x hx, hnearest.isNaN, ?_⟩
  simp only [level, hxsign, hsign, Bool.false_eq_true, if_false]
  exact_mod_cast hmagnitude

end Finite

end BenchReport.Double
