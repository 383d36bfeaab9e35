import BenchReport.Decimal.Numeral
import BenchReport.Path

namespace BenchReport

inductive Level where
  | debug
  | info
  | warn
deriving DecidableEq

namespace Level

def name : Level → String
  | debug => "DEBUG"
  | info => "INFO"
  | warn => "WARN"

end Level

inductive Event where
  | input (path : Path)
  | outputDirectory (path : Path)
  | rowWithoutValues (line : Nat)
  | loaded (rows columns : Nat) (path : Path)
  | notDerived (column : String)
  | columnMissing (stem metric : String)
  | superseded (stem other : String)
  | planned (charts : Nat)
  | treeMissing (stem metric tree : String) (readRatio : Double)
  | chartEmpty (stem metric : String)
  | rendered (stem : String) (files : Nat)
  | noCharts (path : Path)
deriving DecidableEq

namespace Event

def level : Event → Level
  | notDerived _ | treeMissing .. | rendered .. => .debug
  | rowWithoutValues _ | noCharts _ => .warn
  | _ => .info

def message : Event → String
  | input p => s!"Input: {p}"
  | outputDirectory p => s!"Output directory: {p}"
  | rowWithoutValues n => s!"line {n}: row has no metric values"
  | loaded rows columns p => s!"Loaded {rows} rows with {columns} metric columns from {p}"
  | notDerived c => s!"No {c} column derived"
  | columnMissing stem metric => s!"Skipping {stem}: no {metric} column"
  | superseded stem other => s!"Skipping {stem}: {other} is plotted instead"
  | planned n => s!"Planned {n} charts"
  | treeMissing stem metric tree ratio =>
    s!"{stem}: no {metric} values for {tree} at read ratio " ++ ratio.text
  | chartEmpty stem metric => s!"Skipping {stem}: no {metric} values"
  | rendered stem n => s!"Rendered {stem} to {n} files"
  | noCharts p => s!"No charts generated from {p}"

def line (e : Event) : String := e.level.name ++ " " ++ e.message

end Event

end BenchReport
