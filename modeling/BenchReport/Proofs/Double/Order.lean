import BenchReport.Double
import Mathlib.Algebra.Group.Nat.Defs
import Mathlib.Order.Basic

namespace BenchReport.Double

open Std

theorem bits_toNat (x : Double) :
    x.bits.toNat = (if x.negative then 2 ^ 63 else 0) + x.magnitude := by
  have hlt : x.bits.toNat < 2 ^ 64 := x.bits.toNat_lt
  simp only [negative, magnitude, decide_eq_true_eq]
  split_ifs <;> omega

theorem isFinite_iff (x : Double) : x.isFinite ↔ x.magnitude < infinity := decide_eq_true_iff

theorem isNaN_iff (x : Double) : x.isNaN ↔ infinity < x.magnitude := decide_eq_true_iff

theorem ofMagnitude_self (x : Double) : ofMagnitude x.negative x.magnitude = x := by
  have h : (if x.negative then 0x8000000000000000 + x.magnitude else x.magnitude) =
      x.bits.toNat := by
    rw [bits_toNat]
    split_ifs <;> omega
  simp only [ofMagnitude, h, UInt64.ofNat_toNat]

theorem magnitude_ofMagnitude (negative : Bool) (m : Nat) (h : m < 2 ^ 63) :
    (ofMagnitude negative m).magnitude = m := by
  simp only [magnitude, ofMagnitude, UInt64.toNat_ofNat']
  split_ifs <;> omega

theorem negative_ofMagnitude (negative : Bool) (m : Nat) (h : m < 2 ^ 63) :
    (ofMagnitude negative m).negative = negative := by
  simp only [Double.negative, ofMagnitude, UInt64.toNat_ofNat']
  cases negative <;> simp only [Bool.false_eq_true, if_true, if_false, decide_eq_true_eq,
    decide_eq_false_iff_not] <;> omega

theorem ext_magnitude (x y : Double) (hn : x.negative = y.negative)
    (hm : x.magnitude = y.magnitude) : x = y := by
  rw [← ofMagnitude_self x, ← ofMagnitude_self y, hn, hm]

theorem rank_injective (x y : Double) (h : x.rank = y.rank) : x = y := by
  apply ext_magnitude
  · cases hx : x.negative <;> cases hy : y.negative <;> simp only [rank, hx, hy] at h <;> grind
  · simp only [rank] at h
    split_ifs at h <;> omega

theorem compare_eq_lt_iff (x y : Double) : compare x y = .lt ↔ x.rank < y.rank :=
  Int.compare_eq_lt

instance : TransOrd Double := inferInstanceAs (TransCmp (compareOn rank))

instance : LawfulEqOrd Double where
  eq_of_compare h := rank_injective _ _ (LawfulEqOrd.eq_of_compare h)

end BenchReport.Double
