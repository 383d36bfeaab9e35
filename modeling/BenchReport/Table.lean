import BenchReport.Double
import BenchReport.Ordered
import BenchReport.Path
/-!
A table of benchmark results: metric columns, and rows that carry a tree type, a sortedness, a read
ratio and one cell per column. Columns may share a name; a name finds the first of them.
-/

namespace BenchReport

structure Row where
  treeType : String
  sortedness : Double
  readRatio : Double
  values : List (Option Double)
deriving DecidableEq

namespace Row

def value (r : Row) (i : Nat) : Option Double := r.values[i]?.join

end Row

structure Table where
  source : Path
  columns : List String
  rows : List Row
deriving DecidableEq

namespace Table

def empty (source : Path) (columns : List String) : Table := ⟨source, columns, []⟩

def fit (width : Nat) (values : List (Option Double)) : List (Option Double) :=
  values.take width ++ List.replicate (width - values.length) none

def add (t : Table) (r : Row) : Table :=
  { t with rows := t.rows ++ [{ r with values := fit t.columns.length r.values }] }

def appendCells : List Row → List (Option Double) → List Row
  | [], _ => []
  | rs, [] => rs
  | r :: rs, v :: vs => { r with values := r.values ++ [v] } :: appendCells rs vs

def appendColumn (t : Table) (name : String) (cells : List (Option Double)) : Table :=
  { t with columns := t.columns ++ [name], rows := appendCells t.rows cells }

def columnIndex? (t : Table) (name : String) : Option Nat := t.columns.idxOf? name

def hasColumn (t : Table) (name : String) : Bool := (t.columnIndex? name).isSome

def columnValues? (t : Table) (name : String) : Option (List (Option Double)) :=
  (t.columnIndex? name).map fun i => t.rows.map (·.value i)

def treeTypes (t : Table) : List String := Ordered.distinct (t.rows.map (·.treeType))

def readRatios (t : Table) : List Double := Ordered.distinct (t.rows.map (·.readRatio))

end Table

end BenchReport
