import BenchReport.Decimal

namespace BenchReport

inductive Tie where
  | up
  | toEven
deriving DecidableEq

namespace Decimal

def pointOf (num den : Nat) : Int :=
  let p := Double.binaryOrder num den * 30103 / 100000
  if Double.below 10 num den p then p
  else if Double.below 10 num den (p + 1) then p + 1
  else p + 2

def neighbours (tie : Tie) (num den : Nat) (place : Int) : List Decimal :=
  let scaled := num * Nat.pow 10 (-place).toNat
  let unit := den * Nat.pow 10 place.toNat
  let lower : Decimal := ⟨scaled / unit, place⟩
  let upper : Decimal := ⟨scaled / unit + 1, place⟩
  let rest := scaled % unit
  if 2 * rest < unit ∨ 2 * rest = unit ∧ tie = .toEven ∧ lower.digits % 2 = 0 then [lower, upper]
  else [upper, lower]

def exactly (x : Double) : Decimal :=
  if x.exponent < 0 then ⟨x.significand * Nat.pow 5 (-x.exponent).toNat, x.exponent⟩
  else ⟨x.significand * Nat.pow 2 x.exponent.toNat, 0⟩

/-- Tries one figure, two, and so on up to seventeen. Ten of a place is one of the next. -/
def shortest (tie : Tie) (x : Double) : Decimal :=
  if x.magnitude = 0 then ⟨0, 0⟩
  else
    let p := pointOf x.numerator x.denominator
    let found := (List.range 17).findSome? fun (k : Nat) =>
      (neighbours tie x.numerator x.denominator (p - (k + 1 : Nat))).find? (·.nearest = x.magnitude)
    match found with
    | some d => if d.digits = 10 then ⟨1, d.exponent + 1⟩ else d
    | none => exactly x

end Decimal

end BenchReport
