import BenchReport.Double.Rounding

namespace BenchReport

def Double.plainDiv [Div Double] (x y : Double) : Id Double := pure (x / y)

structure Tally where
  sum : Double := 0
  count : Nat := 0
deriving DecidableEq

namespace Tally

def add [Add Double] (t : Tally) (x : Double) : Tally := ⟨t.sum + x, t.count + 1⟩

def meanBy {m : Type → Type} (divide : Double → Double → m Double) (t : Tally) : m Double :=
  divide t.sum (t.count : Double)

end Tally

end BenchReport
