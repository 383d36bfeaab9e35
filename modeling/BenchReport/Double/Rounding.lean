import BenchReport.Double

namespace BenchReport

def roundHalfEven (num den : Nat) : Nat :=
  if 2 * (num % den) < den ∨ 2 * (num % den) = den ∧ num / den % 2 = 0 then num / den
  else num / den + 1

namespace Double

def below (b num den : Nat) (e : Int) : Bool :=
  decide (num * Nat.pow b (-e).toNat < den * Nat.pow b e.toNat)

def binaryOrder (num den : Nat) : Int :=
  let e : Int := (num.log2 : Int) - den.log2
  if below 2 num den e then e - 1 else e

/-- The magnitude nearest to `num / den`: 53 significant bits, or as many as the smallest exponent
leaves. A significand rounded up to `2 ^ 53` carries into the exponent by itself. -/
def nearestMagnitude (num den : Nat) : Nat :=
  if num = 0 then 0
  else
    let e := max (binaryOrder num den - 52) (-1074)
    let m := roundHalfEven (num * Nat.pow 2 (-e).toNat) (den * Nat.pow 2 e.toNat)
    min infinity ((e + 1074).toNat * 0x10000000000000 + m)

def ofNat (n : Nat) : Double := ofMagnitude false (nearestMagnitude n 1)

instance : NatCast Double := ⟨ofNat⟩

instance (n : Nat) : OfNat Double n := ⟨ofNat n⟩

instance : OfScientific Double where
  ofScientific m isNegative e :=
    ofMagnitude false
      (if isNegative then nearestMagnitude m (Nat.pow 10 e) else nearestMagnitude (m * Nat.pow 10 e) 1)

def toFloat (x : Double) : Float := Float.ofBits x.bits

def ofFloat (f : Float) : Double := ⟨f.toBits⟩

def combine (op : Float → Float → Float) (x y : Double) : Double :=
  if x.isNaN then x else if y.isNaN then y else ofFloat (op x.toFloat y.toFloat)

instance : Add Double := ⟨combine (· + ·)⟩

instance : Sub Double := ⟨combine (· - ·)⟩

instance : Mul Double := ⟨combine (· * ·)⟩

instance : Div Double := ⟨combine (· / ·)⟩

instance : Neg Double := ⟨fun x => ofMagnitude (!x.negative) x.magnitude⟩

end Double

end BenchReport
