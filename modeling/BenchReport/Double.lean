/-!
Numbers of 64 bits (binary64): a sign bit, eleven bits of exponent and 52 bits of fraction. Two of
them are equal when their bits are, so `-0` differs from `0` and a NaN equals itself. `rank` lines
all of them up; `level` is what numeric comparison looks at.
-/

namespace BenchReport

structure Double where
  bits : UInt64
deriving DecidableEq, Inhabited

namespace Double

def infinity : Nat := 0x7ff0000000000000

def negative (x : Double) : Bool := decide (0x8000000000000000 ≤ x.bits.toNat)

def magnitude (x : Double) : Nat := x.bits.toNat % 0x8000000000000000

def ofMagnitude (negative : Bool) (m : Nat) : Double :=
  ⟨UInt64.ofNat (if negative then 0x8000000000000000 + m else m)⟩

def isNaN (x : Double) : Bool := decide (infinity < x.magnitude)

def isFinite (x : Double) : Bool := decide (x.magnitude < infinity)

/-- The place in the total order: negative NaNs, `-∞`, …, `-0`, `0`, …, `∞`, positive NaNs. -/
def rank (x : Double) : Int := if x.negative then -1 - x.magnitude else x.magnitude

instance : Ord Double := ⟨fun x y => compare x.rank y.rank⟩

def level (x : Double) : Int := if x.negative then -x.magnitude else x.magnitude

instance : LT Double := ⟨fun x y => x.isNaN = false ∧ y.isNaN = false ∧ x.level < y.level⟩

instance : LE Double := ⟨fun x y => x.isNaN = false ∧ y.isNaN = false ∧ x.level ≤ y.level⟩

instance (x y : Double) : Decidable (x < y) :=
  inferInstanceAs (Decidable (x.isNaN = false ∧ y.isNaN = false ∧ x.level < y.level))

instance (x y : Double) : Decidable (x ≤ y) :=
  inferInstanceAs (Decidable (x.isNaN = false ∧ y.isNaN = false ∧ x.level ≤ y.level))

instance : Max Double :=
  -- a NaN gives way to the other number
  ⟨fun x y => if x.isNaN then y else if y.isNaN then x else if x < y then y else x⟩

def significand (x : Double) : Nat :=
  if x.magnitude < 0x10000000000000 then x.magnitude
  else 0x10000000000000 + x.magnitude % 0x10000000000000

def exponent (x : Double) : Int := max (x.magnitude / 0x10000000000000 : Nat) 1 - 1075

def numerator (x : Double) : Nat := x.significand * Nat.pow 2 x.exponent.toNat

def denominator (x : Double) : Nat := Nat.pow 2 (-x.exponent).toNat

def floor (x : Double) : Int :=
  if x.isNaN then 0
  else if x.negative then -((x.numerator + x.denominator - 1) / x.denominator : Nat)
  else (x.numerator / x.denominator : Nat)

def ceil (x : Double) : Int :=
  if x.isNaN then 0
  else if x.negative then -(x.numerator / x.denominator : Nat)
  else ((x.numerator + x.denominator - 1) / x.denominator : Nat)

end Double

end BenchReport
