import BenchReport.Chart.Spec
import BenchReport.Chart.Style
import BenchReport.Series
/-!
The layout of a chart before anything is drawn: one panel for each read ratio that has values, one
series for each tree type in it, and the sortedness ticks that its points use.
-/

namespace BenchReport

structure PanelSeries (α : Type) where
  treeType : String
  style : SeriesStyle
  points : List (Point α)
deriving DecidableEq

structure Panel (α : Type) where
  readRatio : α
  ticks : List α
  series : List (PanelSeries α)
deriving DecidableEq

namespace Panel

variable {α : Type}

def tickIndex? [DecidableEq α] (p : Panel α) (percent : α) : Option Nat := p.ticks.idxOf? percent

def values (p : Panel α) : List α := p.series.flatMap fun s => s.points.map (·.value)

def maxValue [NatCast α] [Max α] (p : Panel α) : α := p.values.foldl max ((0 : Nat) : α)

def legend (p : Panel α) : List String := p.series.map (·.treeType)

end Panel

structure Chart where
  spec : ChartSpec
  panels : List (Panel Double)
deriving DecidableEq

namespace Chart

def pushSeries (p : Panel Double) (e : SeriesKey × List (Point Double)) : Panel Double :=
  { p with series := p.series ++ [⟨e.1.treeType, .ofLabel e.1.treeType p.series.length, e.2⟩] }

/-- One more series. It joins the last panel when that has its read ratio and opens a new panel
otherwise. The last panel stands first. -/
def place (panels : List (Panel Double)) (e : SeriesKey × List (Point Double)) :
    List (Panel Double) :=
  match panels with
  | [] => [pushSeries ⟨e.1.readRatio, [], []⟩ e]
  | p :: ps =>
    if compare p.readRatio e.1.readRatio = .eq then pushSeries p e :: ps
    else pushSeries ⟨e.1.readRatio, [], []⟩ e :: p :: ps

def markTicks (p : Panel Double) : Panel Double :=
  { p with ticks := Ordered.distinct (p.series.flatMap fun s => s.points.map (·.percent)) }

def panelsOf (series : List (SeriesKey × List (Point Double))) : List (Panel Double) :=
  (series.foldl place []).reverse.map markTicks

def build [Add Double] [Mul Double] [Div Double] (v : View) (spec : ChartSpec) : Chart :=
  ⟨spec, panelsOf (v.series spec.metric)⟩

def buildEvents (v : View) (spec : ChartSpec) : List Event :=
  v.table.treeTypes.flatMap fun tree =>
    (build v spec).panels.filterMap fun p =>
      if tree ∈ p.legend then none
      else some (.treeMissing spec.fileStem spec.metric tree p.readRatio)

def isEmpty (c : Chart) : Bool := c.panels.isEmpty

end Chart

end BenchReport
