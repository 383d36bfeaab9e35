import BenchReport.View

namespace BenchReport

structure Configuration where
  readRatio : Double
  treeType : String
  sortedness : Double
deriving DecidableEq

instance : Ord Configuration :=
  ⟨compareLex (compareOn Configuration.readRatio)
    (compareLex (compareOn Configuration.treeType) (compareOn Configuration.sortedness))⟩

structure SummaryRow where
  configuration : Configuration
  trials : Nat
  means : List (Option Double)
deriving DecidableEq

structure Summary where
  columns : List String
  rows : List SummaryRow
deriving DecidableEq

namespace Row

def configuration (r : Row) : Configuration := ⟨r.readRatio, r.treeType, r.sortedness⟩

end Row

structure Trials where
  count : Nat
  tallies : List Tally
deriving DecidableEq

namespace Trials

def add [Add Double] (g : Trials) (r : Row) : Trials :=
  ⟨g.count + 1, g.tallies.mapIdx fun i t => (r.value i).elim t t.add⟩

end Trials

namespace Summary

section

variable {m : Type → Type} [Monad m] [Add Double] (divide : Double → Double → m Double)

def meanOfBy (t : Tally) : m (Option Double) :=
  if 0 < t.count then some <$> t.meanBy divide else pure none

def gather (width : Nat) (groups : List (Configuration × Trials)) (r : Row) :
    List (Configuration × Trials) :=
  Ordered.update ⟨0, List.replicate width {}⟩ (·.add r) r.configuration groups

def rowBy (g : Configuration × Trials) : m SummaryRow :=
  (⟨g.1, g.2.count, ·⟩) <$> g.2.tallies.mapM (meanOfBy divide)

def ofViewBy (v : View) : m Summary := do
  let rows ← (v.table.rows.foldl (gather v.table.columns.length) []).mapM (rowBy divide)
  pure ⟨v.table.columns, rows⟩

end

def ofView [Add Double] [Div Double] (v : View) : Summary := (ofViewBy Double.plainDiv v).run

end Summary

end BenchReport
