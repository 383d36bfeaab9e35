import BenchReport.View

namespace BenchReport

structure SeriesKey where
  readRatio : Double
  treeType : String
deriving DecidableEq

instance : Ord SeriesKey :=
  ⟨compareLex (compareOn SeriesKey.readRatio) (compareOn SeriesKey.treeType)⟩

structure Point (α : Type) where
  percent : α
  value : α
  trials : Nat
deriving DecidableEq

structure Sample where
  key : SeriesKey
  percent : Double
  value : Double
deriving DecidableEq

namespace Sample

section

variable [Add Double]

def tally (tallies : List (Double × Tally)) (s : Sample) : List (Double × Tally) :=
  Ordered.update {} (·.add s.value) s.percent tallies

def gather (groups : List (SeriesKey × List (Double × Tally))) (s : Sample) :
    List (SeriesKey × List (Double × Tally)) :=
  Ordered.update [] (tally · s) s.key groups

variable {m : Type → Type} [Monad m] (divide : Double → Double → m Double)

def pointBy (g : Double × Tally) : m (Point Double) := (⟨g.1, ·, g.2.count⟩) <$> g.2.meanBy divide

def seriesBy (samples : List Sample) : m (List (SeriesKey × List (Point Double))) :=
  (samples.foldl gather []).mapM fun g => (g.1, ·) <$> g.2.mapM (pointBy divide)

end

def series [Add Double] [Div Double] (samples : List Sample) :
    List (SeriesKey × List (Point Double)) :=
  (seriesBy Double.plainDiv samples).run

end Sample

namespace View

def samples [Mul Double] (v : View) (column : String) : List Sample :=
  match v.table.columnIndex? column with
  | none => []
  | some i =>
    v.table.rows.filterMap fun r =>
      (r.value i).map fun value => ⟨⟨r.readRatio, r.treeType⟩, v.percent r, value⟩

def seriesBy {m : Type → Type} [Monad m] [Add Double] [Mul Double]
    (divide : Double → Double → m Double) (v : View) (column : String) :
    m (List (SeriesKey × List (Point Double))) :=
  Sample.seriesBy divide (v.samples column)

def series [Add Double] [Mul Double] [Div Double] (v : View) (column : String) :
    List (SeriesKey × List (Point Double)) :=
  (v.seriesBy Double.plainDiv column).run

end View

end BenchReport
