import BenchReport.Column
import BenchReport.Double.Mean
import BenchReport.Event
import BenchReport.Table
/-!
A table with display columns at its end: sortedness in percent, the share of fast-path hits when the
count of operations is known, and speedups against a baseline tree.
-/

namespace BenchReport

def defaultBaseline := "SimpleBTree"

structure DeriveOptions where
  trialCount : Option UInt64 := none
  baseline : String := defaultBaseline
deriving DecidableEq

structure View where
  table : Table
  percentIndex : Nat
deriving DecidableEq

structure Workload where
  sortedness : Double
  readRatio : Double
deriving DecidableEq

instance : Ord Workload :=
  ⟨compareLex (compareOn Workload.sortedness) (compareOn Workload.readRatio)⟩

def Row.workload (r : Row) : Workload := ⟨r.sortedness, r.readRatio⟩

namespace View

def percentCells [Mul Double] (t : Table) : List (Option Double) :=
  t.rows.map fun r => some (r.sortedness * 100)

def gatherTimes [Add Double] (i : Nat) (sums : List (Workload × Tally)) (r : Row) :
    List (Workload × Tally) :=
  match r.value i with
  | none => sums
  | some time => Ordered.update {} (·.add time) r.workload sums

/-- The times of the baseline, added up for each workload that has any. -/
def baselineSums [Add Double] (t : Table) (i : Nat) (baseline : String) : List (Workload × Tally) :=
  (t.rows.filter (·.treeType = baseline)).foldl (gatherTimes i) []

section

variable {m : Type → Type} [Monad m] [Add Double] [Mul Double] (divide : Double → Double → m Double)

def hitRateCellsBy (t : Table) (trials : Option UInt64) : m (Option (List (Option Double))) :=
  match t.columnValues? Column.fastPathHits, trials with
  | some hits, some n =>
    some <$> hits.mapM fun cell => cell.mapM fun h => divide (h * 100) (n.toNat : Double)
  | _, _ => pure none

def speedupBy (sums : List (Workload × Tally)) (i : Nat) (r : Row) : m (Option Double) :=
  match Ordered.find? r.workload sums, r.value i with
  | some tally, some time =>
    if 0 < time then do
      let mean ← tally.meanBy divide
      some <$> divide mean time
    else pure none
  | _, _ => pure none

def speedupCellsBy (t : Table) (column baseline : String) : m (Option (List (Option Double))) :=
  match t.columnIndex? column with
  | none => pure none
  | some i =>
    let sums := baselineSums t i baseline
    if sums.isEmpty then pure none
    else some <$> t.rows.mapM (speedupBy divide sums i)

def derivedColumnsBy (t : Table) (o : DeriveOptions) :
    m (List (String × List (Option Double))) := do
  let rates ← hitRateCellsBy divide t o.trialCount
  let speedups ← Column.speedups.mapM fun (source, target) =>
    Option.map (target, ·) <$> speedupCellsBy divide t source o.baseline
  pure ((Column.sortednessPercent, percentCells t) ::
    (rates.toList.map fun cells => (Column.fastPathHitRate, cells)) ++ speedups.filterMap id)

def deriveBy (t : Table) (o : DeriveOptions) : m View := do
  let columns ← derivedColumnsBy divide t o
  pure ⟨columns.foldl (fun u c => u.appendColumn c.1 c.2) t, t.columns.length⟩

end

section

variable [Add Double] [Mul Double] [Div Double]

def speedupCells? (t : Table) (column baseline : String) : Option (List (Option Double)) :=
  (speedupCellsBy Double.plainDiv t column baseline).run

def derivedColumns (t : Table) (o : DeriveOptions) : List (String × List (Option Double)) :=
  (derivedColumnsBy Double.plainDiv t o).run

def derive (t : Table) (o : DeriveOptions) : View := (deriveBy Double.plainDiv t o).run

end

def deriveEvents (t : Table) (o : DeriveOptions) : List Event :=
  Column.speedups.filterMap fun (source, target) =>
    if (speedupCells? t source o.baseline).isNone then some (.notDerived target) else none

def percent [Mul Double] (v : View) (r : Row) : Double :=
  -- a row from elsewhere may lack the column
  (r.value v.percentIndex).getD (r.sortedness * 100)

end View

end BenchReport
