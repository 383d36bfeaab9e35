import BenchReport.Double.Rounding

namespace BenchReport

structure Decimal where
  digits : Nat
  exponent : Int
deriving DecidableEq

namespace Decimal

def numerator (d : Decimal) : Nat := d.digits * Nat.pow 10 d.exponent.toNat

def denominator (d : Decimal) : Nat := Nat.pow 10 (-d.exponent).toNat

def figures (d : Decimal) : List Char := Nat.toDigits 10 d.digits

def point (d : Decimal) : Int := d.figures.length + d.exponent

/-- The magnitude of the nearest number. Fractions of `10 ^ 310` and above are infinite and those
below `10 ^ -330` are 0, which keeps the powers of ten small. -/
def nearest (d : Decimal) : Nat :=
  if d.digits = 0 ∨ d.point < -330 then 0
  else if 310 < d.point then Double.infinity
  else Double.nearestMagnitude d.numerator d.denominator

end Decimal

end BenchReport
