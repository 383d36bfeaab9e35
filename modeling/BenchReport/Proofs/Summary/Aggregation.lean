import BenchReport.Proofs.Summary
import BenchReport.Proofs.Text.Order

namespace BenchReport

open Ordered

namespace Configuration

def Before (c d : Configuration) : Prop :=
  c.readRatio.rank < d.readRatio.rank ∨ c.readRatio = d.readRatio ∧
    (Text.toBytes c.treeType < Text.toBytes d.treeType ∨
      c.treeType = d.treeType ∧ c.sortedness.rank < d.sortedness.rank)

theorem compare_eq_lt_iff (c d : Configuration) : compare c d = .lt ↔ c.Before d := by
  rw [compare_eq, Ordering.then_eq_lt, Ordering.then_eq_lt, Double.compare_eq_lt_iff,
    Double.compare_eq_lt_iff, Text.compare_eq_lt_iff_toBytes, Std.LawfulEqOrd.compare_eq_iff_eq,
    Std.LawfulEqOrd.compare_eq_iff_eq, Before]

end Configuration

namespace View

def trialsOf (v : View) (c : Configuration) : List Row :=
  v.table.rows.filter (·.configuration = c)

end View

namespace Summary

structure Aggregates (s : Summary) (v : View) : Prop where
  columns : s.columns = v.table.columns
  configurations : ∀ c, (∃ q ∈ s.rows, q.configuration = c) ↔
    ∃ r ∈ v.table.rows, r.configuration = c
  ascending : s.rows.Pairwise fun p q => p.configuration.Before q.configuration
  trials : ∀ q ∈ s.rows, q.trials = (v.trialsOf q.configuration).length
  total : (s.rows.map (·.trials)).sum = v.table.rows.length
  width : ∀ q ∈ s.rows, q.means.length = v.table.columns.length
  means : ∀ q ∈ s.rows, ∀ j < v.table.columns.length, ∀ x, q.mean j = some x ↔
    (∃ r ∈ v.trialsOf q.configuration, (r.value j).isSome) ∧
      x = Double.total ((v.trialsOf q.configuration).filterMap (·.value j)) /
        (((v.trialsOf q.configuration).filterMap (·.value j)).length : Double)

theorem meanOver_eq_some_iff (rows : List Row) (j : Nat) (x : Double) :
    meanOver rows j = some x ↔ (∃ r ∈ rows, (r.value j).isSome) ∧
      x = Double.total (rows.filterMap (·.value j)) /
        ((rows.filterMap (·.value j)).length : Double) := by
  rw [← meanOver_isSome_iff, meanOver]
  split_ifs with hnone
  · simp
  · rw [Option.some.injEq, Double.mean, eq_comm]
    simp

theorem rows_configurations (v : View) :
    (ofView v).rows.map (·.configuration) = distinct (v.table.rows.map (·.configuration)) := by
  rw [rows_eq, List.map_map]
  exact List.map_id _

theorem sum_trials (v : View) : ((ofView v).rows.map (·.trials)).sum = v.table.rows.length := by
  rw [rows_eq, List.map_map]
  exact sum_length_filter Row.configuration v.table.rows

/-- A summary has one row for each configuration of the view, by read ratio, tree type and
sortedness. It counts the rows of the configuration and has the means of their values, column by
column. -/
theorem ofView_aggregates (v : View) : (ofView v).Aggregates v := by
  have hrow (q : SummaryRow) (hq : q ∈ (ofView v).rows) :
      q = rowOf v.table.columns.length v.table.rows q.configuration :=
    ((mem_rows_iff v q).mp hq).2
  constructor
  · rfl
  · intro c
    rw [← List.mem_map, rows_configurations, mem_distinct, List.mem_map]
  · have hascending := distinct_ascending (v.table.rows.map (·.configuration))
    rw [← rows_configurations] at hascending
    apply (List.pairwise_map.mp hascending).imp
    intro p q hpq
    exact (Configuration.compare_eq_lt_iff _ _).mp hpq
  · intro q hq
    exact congrArg SummaryRow.trials (hrow q hq)
  · exact sum_trials v
  · intro q hq
    rw [hrow q hq]
    simp [rowOf]
  · intro q hq j hj x
    rw [hrow q hq, rowOf_mean _ _ _ _ hj]
    exact meanOver_eq_some_iff _ j x

end Summary

end BenchReport
