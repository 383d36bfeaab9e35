import BenchReport.Double.Mean

namespace BenchReport

variable [Add Double]

def Double.total (xs : List Double) : Double := xs.foldl (· + ·) 0

def Double.mean [Div Double] (xs : List Double) : Double := total xs / (xs.length : Double)

namespace Tally

theorem foldl_add_from (t : Tally) (xs : List Double) :
    xs.foldl add t = ⟨xs.foldl (· + ·) t.sum, t.count + xs.length⟩ := by
  induction xs generalizing t with
  | nil => rfl
  | cons x xs ih =>
    rw [List.foldl_cons, ih, List.foldl_cons, List.length_cons, Nat.add_comm xs.length,
      ← Nat.add_assoc]
    rfl

theorem foldl_add (xs : List Double) : xs.foldl add {} = ⟨Double.total xs, xs.length⟩ := by
  rw [foldl_add_from, Nat.zero_add]
  rfl

def mean [Div Double] (t : Tally) : Double := (t.meanBy Double.plainDiv).run

theorem foldl_add_mean [Div Double] (xs : List Double) :
    (xs.foldl add {}).mean = Double.mean xs := by
  rw [foldl_add]
  rfl

end Tally

end BenchReport
