import BenchReport.Proofs.Double.Normalizing

namespace BenchReport.Double

open Float.Model UnpackedFloat

theorem isNearest_self (x : Double) (h : x.isFinite) : IsNearest x x.size :=
  ⟨x.numerator, x.denominator, x.denominator_pos, rfl, (nearestMagnitude_self x h).symm⟩

theorem isNaN_of_isFinite (x : Double) (h : x.isFinite) : x.isNaN = false := by
  have hlt := x.isFinite_iff.mp h
  exact decide_eq_false (by omega)

def value (x : Double) : ℚ := if x.negative then -x.size else x.size

theorem abs_value (x : Double) : |x.value| = x.size := by
  unfold value
  split_ifs
  · rw [abs_neg, abs_of_nonneg x.size_nonneg]
  · exact abs_of_nonneg x.size_nonneg

inductive Parts (x : Double) : Prop
  | zero : x.unpacked = .zero x.sign → x.size = 0 → Parts x
  | finite (m : Nat) (e : Int) (h : Canonical m e) : x.unpacked = .finite x.sign m e h.pos →
      x.size = m * 2 ^ e → Parts x

theorem parts (x : Double) (h : x.isFinite) : Parts x := by
  by_cases hzero : x.magnitude = 0
  · exact .zero (unpacked_zero x hzero) (size_of_magnitude_zero x hzero)
  · exact .finite _ _ (x.canonical hzero) (unpacked_finite x h hzero) x.size_eq

theorem value_eq_zero (x : Double) (h : x.size = 0) : x.value = 0 := by
  rw [← abs_eq_zero, abs_value, h]

theorem value_eq_apply (x : Double) (m k : Nat) (e e' : Int) (hsize : x.size = m * 2 ^ e)
    (he : e = k + e') : x.value = (x.sign.apply (m * 2 ^ k : Nat) : Int) * 2 ^ e' := by
  have hshift : x.size = (m * 2 ^ k : Nat) * 2 ^ e' := by
    rw [hsize, Nat.cast_mul, mul_assoc, two_pow_mul_zpow, he]
  unfold value sign
  rw [hshift]
  cases x.negative with
  | true =>
    change -_ = ((-((m * 2 ^ k : Nat) : Int) : Int) : ℚ) * _
    push_cast
    ring
  | false => rfl

section Finite

variable (x y : Double) (hx : x.isFinite) (hy : y.isFinite)

include hx hy

theorem mul_isNearest : IsNearest (x * y) (x.size * y.size) := by
  rw [mul_eq_ofUnpacked x y (isNaN_of_isFinite x hx) (isNaN_of_isFinite y hy)]
  cases parts x hx with
  | zero hunpacked hsize =>
    rw [hunpacked, hsize, zero_mul]
    cases parts y hy with
    | zero hunpacked' hsize' =>
      rw [hunpacked']
      exact isNearest_zero _
    | finite m' e' h' hunpacked' hsize' =>
      rw [hunpacked']
      exact isNearest_zero _
  | finite m e h hunpacked hsize =>
    cases parts y hy with
    | zero hunpacked' hsize' =>
      rw [hunpacked, hunpacked', hsize', mul_zero]
      exact isNearest_zero _
    | finite m' e' h' hunpacked' hsize' =>
      have hvalue : x.size * y.size = (m * m' : Nat) * 2 ^ (e + e') := by
        rw [hsize, hsize', zpow_add₀ two_ne_zero]
        push_cast
        ring
      rw [hunpacked, hunpacked', hvalue]
      apply isNearest_roundExact _ _ (Nat.mul_pos h.pos h'.pos)
      rcases h.full with hfull | hlow
      · exact .inl (hfull.trans (Nat.le_mul_of_pos_right m h'.pos))
      · rcases h'.full with hfull' | hlow'
        · exact .inl (hfull'.trans (Nat.le_mul_of_pos_left m' h.pos))
        · exact .inr (by omega)

theorem mul_sign : (x * y).sign = x.sign * y.sign := by
  rw [mul_eq_ofUnpacked x y (isNaN_of_isFinite x hx) (isNaN_of_isFinite y hy)]
  cases parts x hx with
  | zero hunpacked _ =>
    rw [hunpacked]
    cases parts y hy with
    | zero hunpacked' _ =>
      rw [hunpacked']
      exact sign_ofUnpacked_zero _
    | finite m' e' h' hunpacked' _ =>
      rw [hunpacked']
      exact sign_ofUnpacked_zero _
  | finite m e h hunpacked _ =>
    rw [hunpacked]
    cases parts y hy with
    | zero hunpacked' _ =>
      rw [hunpacked']
      exact sign_ofUnpacked_zero _
    | finite m' e' h' hunpacked' _ =>
      rw [hunpacked']
      exact sign_roundWithAccuracy _ _ _ _

theorem div_isNearest (hzero : y.magnitude ≠ 0) : IsNearest (x / y) (x.size / y.size) := by
  rw [div_eq_ofUnpacked x y (isNaN_of_isFinite x hx) (isNaN_of_isFinite y hy),
    unpacked_finite y hy hzero, y.size_eq]
  cases parts x hx with
  | zero hunpacked hsize =>
    rw [hunpacked, hsize, zero_div]
    exact isNearest_zero _
  | finite m e h hunpacked hsize =>
    rw [hunpacked, hsize]
    exact isNearest_divCore _ m _ e _ h.pos (y.significand_pos hzero)

theorem add_isNearest : IsNearest (x + y) |x.value + y.value| := by
  rw [add_eq_ofUnpacked x y (isNaN_of_isFinite x hx) (isNaN_of_isFinite y hy)]
  cases parts x hx with
  | zero hunpacked hsize =>
    rw [value_eq_zero x hsize, zero_add, abs_value, hunpacked]
    cases parts y hy with
    | zero hunpacked' hsize' =>
      rw [hunpacked', hsize']
      change IsNearest (ofUnpacked (if _ then _ else _)) 0
      split_ifs <;> exact isNearest_zero _
    | finite m' e' h' hunpacked' hsize' =>
      have hsame : UnpackedFloat.add .binary64 (.zero x.sign) y.unpacked = y.unpacked := by
        rw [hunpacked']
        rfl
      rw [hsame, ofUnpacked_unpacked y (isNaN_of_isFinite y hy)]
      exact isNearest_self y hy
  | finite m e h hunpacked hsize =>
    cases parts y hy with
    | zero hunpacked' hsize' =>
      have hsame : UnpackedFloat.add .binary64 x.unpacked (.zero y.sign) = x.unpacked := by
        rw [hunpacked]
        rfl
      rw [value_eq_zero y hsize', add_zero, abs_value, hunpacked', hsame,
        ofUnpacked_unpacked x (isNaN_of_isFinite x hx)]
      exact isNearest_self x hx
    | finite m' e' h' hunpacked' hsize' =>
      have hadd : UnpackedFloat.add .binary64 x.unpacked y.unpacked =
          UnpackedFloat.normalize .binary64 (x.sign.apply (m * 2 ^ (e - min e e').toNat : Nat) +
            y.sign.apply (m' * 2 ^ (e' - min e e').toNat : Nat)) (min e e') .positive := by
        rw [hunpacked, hunpacked', ← Nat.shiftLeft_eq, ← Nat.shiftLeft_eq]
        rfl
      have hvalue := value_eq_apply x m (e - min e e').toNat e (min e e') hsize (by omega)
      have hvalue' := value_eq_apply y m' (e' - min e e').toNat e' (min e e') hsize' (by omega)
      have hunit : |(2 : ℚ) ^ min e e'| = 2 ^ min e e' := abs_of_pos (zpow_pos two_pos _)
      rw [hadd, hvalue, hvalue', ← add_mul, abs_mul, hunit, ← Int.cast_add]
      exact isNearest_normalize _ _ _

end Finite

theorem natCast_isNearest (n : Nat) : IsNearest n n := by
  refine ⟨n, 1, one_pos, by simp, magnitude_ofMagnitude false _ ?_⟩
  exact (nearestMagnitude_le_infinity n 1).trans_lt (by decide)

end BenchReport.Double
