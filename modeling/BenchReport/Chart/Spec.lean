import BenchReport.Double.Rounding

namespace BenchReport

inductive ChartKind where
  | bar
  | line
  | utilization
deriving DecidableEq

structure ChartSpec where
  metric : String
  fileStem : String
  title : String
  yLabel : String
  kind : ChartKind
  referenceLine : Option Double := none
deriving DecidableEq

end BenchReport
