import BenchReport.Column
import BenchReport.Csv.Decoder
import BenchReport.Decimal.Numeral
import BenchReport.Table
import BenchReport.Text.Quoted

namespace BenchReport

inductive DataFault where
  | missingInput (path : Path)
  | missingColumn (column : String) (path : Path)
  | invalidValue (line : Nat) (column value : String)
  | outOfRange (line : Nat) (column : String) (value : Double)
  | csv (fault : Csv.Fault)
  | disk (e : DiskError)
deriving DecidableEq

namespace DataFault

def message : DataFault → String
  | missingInput p => s!"could not find {p}; run the benchmark first to generate results"
  | missingColumn column p => s!"missing column `{column}` in {p}"
  | invalidValue line column value =>
    s!"line {line}: column `{column}` has non-numeric value " ++ Text.quoted value
  | outOfRange line column value =>
    s!"line {line}: column `{column}` must be within [0, 1], got " ++ value.text
  | csv fault => "CSV error: " ++ fault.message
  | disk e => "IO error: " ++ e.message

end DataFault

namespace Table

structure Layout where
  treeType : Nat
  sortedness : Nat
  readRatio : Nat
  metrics : List (Nat × String)
deriving DecidableEq

def keyIndex (source : Path) (header : List String) (name : String) : Except DataFault Nat :=
  match header.idxOf? name with
  | some i => .ok i
  | none => .error (.missingColumn name source)

def metricColumns (keys : List Nat) (header : List String) : List (Nat × String) :=
  -- a key that is named again is a metric there
  (header.zipIdx.filter fun c => !keys.contains c.2 && !c.1.isEmpty).map fun c => (c.2, c.1)

def layout (source : Path) (header : List String) : Except DataFault Layout := do
  let tree ← keyIndex source header Column.treeType
  let sortedness ← keyIndex source header Column.sortedness
  let ratio ← keyIndex source header Column.readRatio
  return ⟨tree, sortedness, ratio, metricColumns [tree, sortedness, ratio] header⟩

def readCell (line : Nat) (column text : String) : Except DataFault (Option Double) :=
  if text.isEmpty then .ok none
  else
    match Numeral.read? text.toList with
    | none => .error (.invalidValue line column text)
    | some x => .ok (if x.isFinite then some x else none)

/-- A key, with `-0` read as 0 so that both fall into one group. -/
def readFraction (line : Nat) (column text : String) : Except DataFault Double := do
  match ← readCell line column text with
  | none => .error (.invalidValue line column text)
  | some x =>
    if 0 ≤ x ∧ x ≤ 1 then .ok (if x.magnitude = 0 then 0 else x)
    else .error (.outOfRange line column x)

def cell (cells : List String) (i : Nat) : String := cells[i]?.getD ""

def readMetrics (line : Nat) (cells : List String) :
    List (Nat × String) → Except DataFault (List (Option Double))
  | [] => .ok []
  | (i, column) :: rest => do
    let value ← readCell line column (cell cells i)
    let values ← readMetrics line cells rest
    return value :: values

def readRow (l : Layout) (line : Nat) (cells : List String) : Except DataFault Row := do
  let sortedness ← readFraction line Column.sortedness (cell cells l.sortedness)
  let ratio ← readFraction line Column.readRatio (cell cells l.readRatio)
  let values ← readMetrics line cells l.metrics
  return ⟨cell cells l.treeType, sortedness, ratio, values⟩

def readLine (l : Layout) (line : Csv.Line) : Except DataFault Row :=
  match line.cells with
  | .error fault => .error (.csv fault)
  | .ok cells => readRow l line.number cells

def readLines (l : Layout) : List Csv.Line → Except DataFault (List Row)
  | [] => .ok []
  | line :: lines => do
    let row ← readLine l line
    let rows ← readLines l lines
    return row :: rows

def ofLines (source : Path) (header : List String) (lines : List Csv.Line) :
    Except DataFault Table := do
  let l ← layout source header
  let rows ← readLines l lines
  return ⟨source, l.metrics.map (·.2), rows⟩

def load (source : Path) (file : Bytes) : Except DataFault Table :=
  match Csv.decode file with
  | (.error fault, _) => .error (.csv fault)
  | (.ok header, lines) => ofLines source header lines

def emptyLines (l : Layout) : List Csv.Line → List Nat
  | [] => []
  | line :: lines =>
    match readLine l line with
    | .error _ => []
    | .ok row =>
      if row.values.all (·.isNone) ∧ row.values ≠ [] then line.number :: emptyLines l lines
      else emptyLines l lines

def loadWarnings (source : Path) (file : Bytes) : List Nat :=
  match Csv.decode file with
  | (.error _, _) => []
  | (.ok header, lines) =>
    match layout source header with
    | .error _ => []
    | .ok l => emptyLines l lines

end Table

end BenchReport
