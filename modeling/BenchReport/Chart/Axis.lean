import BenchReport.Chart.Panel

namespace BenchReport

structure Span (α : Type) where
  low : α
  high : α
deriving DecidableEq

section

variable {α : Type} [NatCast α] [Add α] [Sub α] [Mul α] [Div α]

/-- The extent of one bar of the group of `count` at a tick. The bars of a group touch each other,
take `groupWidth` together, and have the tick in their middle. -/
def barSpan (groupWidth : α) (tick series count : Nat) : Span α :=
  let n : α := (max count 1 : Nat)
  let width := groupWidth / n
  let centre := (tick : α) + ((series : α) - (n - (1 : Nat)) / (2 : Nat)) * width
  ⟨centre - width / (2 : Nat), centre + width / (2 : Nat)⟩

def tickAxis (half : α) (ticks : Nat) : Span α := ⟨(0 : Nat) - half, (ticks : α) - half⟩

def dashes (axis : Span α) : List (Span α) :=
  let dash := (axis.high - axis.low) / (50 : Nat)
  (List.range 25).map fun (i : Nat) =>
    let left := axis.low + (2 : Nat) * dash * (i : α)
    ⟨left, left + dash⟩

/-- The axis beside a panel starts at 0. It ends at 1 for a share, and else `headroom` times as high
as the largest value or the reference line, or at 1 when neither is above 0. -/
def valueAxis [LT α] [DecidableLT α] [Max α] (headroom : α) (kind : ChartKind)
    (reference : Option α) (p : Panel α) : Span α :=
  let zero : α := (0 : Nat)
  let top := max p.maxValue (reference.getD zero)
  if kind = .utilization then ⟨zero, (1 : Nat)⟩
  else if zero < top then ⟨zero, top * headroom⟩
  else ⟨zero, (1 : Nat)⟩

end

def barGroupWidth : Double := 0.8

def headroom : Double := 1.3

def percentAxis : Span Double := ⟨-5, 105⟩

end BenchReport
