import BenchReport.Proofs.Summary.Agreement
import BenchReport.Proofs.Text.Order

namespace BenchReport

open Ordered

namespace SeriesKey

def Before (k l : SeriesKey) : Prop :=
  k.readRatio.rank < l.readRatio.rank ∨
    k.readRatio = l.readRatio ∧ Text.toBytes k.treeType < Text.toBytes l.treeType

theorem compare_eq_lt_iff (k l : SeriesKey) : compare k l = .lt ↔ k.Before l := by
  rw [compare_eq, Ordering.then_eq_lt, Double.compare_eq_lt_iff, Text.compare_eq_lt_iff_toBytes,
    Std.LawfulEqOrd.compare_eq_iff_eq, Before]

end SeriesKey

namespace Sample

theorem sum_trials_points (own : List Sample) :
    ((points own).map (·.trials)).sum = own.length := by
  rw [points, List.map_map]
  exact sum_length_filter Sample.percent own

theorem sum_trials_series (samples : List Sample) :
    ((series samples).map fun e => (e.2.map (·.trials)).sum).sum = samples.length := by
  rw [series_eq, List.map_map]
  simp only [Function.comp_def, sum_trials_points]
  exact sum_length_filter Sample.key samples

end Sample

namespace View

def feeding (v : View) (column : String) (k : SeriesKey) (percent : Double) : List Row :=
  v.table.rows.filter fun r => r.FeedsPoint k percent ∧ (v.table.cell? column r).isSome

structure Partitioned (v : View) (column : String)
    (series : List (SeriesKey × List (Point Double))) : Prop where
  unknown : v.table.columnIndex? column = none → series = []
  keys : (series.map (·.1)).Pairwise SeriesKey.Before
  percents : ∀ e ∈ series, (e.2.map (·.percent)).Pairwise (·.rank < ·.rank)
  filled : ∀ e ∈ series, e.2 ≠ []
  points : ∀ k p, Sample.HasPoint series k p ↔ v.feeding column k p.percent ≠ [] ∧
    p.trials = (v.feeding column k p.percent).length ∧
    p.value = Double.total ((v.feeding column k p.percent).filterMap (v.table.cell? column)) /
      (p.trials : Double)
  trials : (series.map fun e => (e.2.map (·.trials)).sum).sum =
    (v.table.rows.filter fun r => (v.table.cell? column r).isSome).length

variable (v : View) (column : String)

theorem length_samples :
    (v.samples column).length =
      (v.table.rows.filter fun r => (v.table.cell? column r).isSome).length := by
  unfold samples Table.cell?
  cases v.table.columnIndex? column with
  | none => simp
  | some i =>
    simp only [Option.bind_some, List.length_filterMap_eq_countP, List.countP_eq_length_filter,
      Option.isSome_map]

theorem group_eq_feeding (hpercent : ∀ r ∈ v.table.rows, v.percent r = r.sortedness * 100)
    (k : SeriesKey) (percent : Double) :
    (Sample.group (v.samples column) k percent).map (·.value) =
      (v.feeding column k percent).filterMap (v.table.cell? column) := by
  cases hi : v.table.columnIndex? column with
  | none => simp [Sample.group, samples, feeding, Table.cell?, hi]
  | some i =>
    rw [group_values v column i hi hpercent, feeding, List.filterMap_filter, List.filterMap_filter]
    apply List.filterMap_congr
    intro r _
    have hcell : v.table.cell? column r = r.value i := by rw [Table.cell?, hi, Option.bind_some]
    rw [hcell]
    cases hvalue : r.value i <;> simp

theorem length_feeding (k : SeriesKey) (percent : Double) :
    ((v.feeding column k percent).filterMap (v.table.cell? column)).length =
      (v.feeding column k percent).length := by
  apply List.filterMap_length_eq_length.mpr
  intro r hr
  obtain ⟨-, hfed⟩ := List.mem_filter.mp hr
  exact (of_decide_eq_true hfed).2

/-- For every column name the series of a view share out the rows with a value in that column: in
order, without an empty series, and with every one of these rows in the one point it feeds. -/
theorem series_partition (t : Table) (ht : t.Reachable) (o : DeriveOptions) (column : String) :
    (derive t o).Partitioned column ((derive t o).series column) := by
  have hpercent := percent_derive t o ht.rectangular
  generalize derive t o = v at *
  have hgroup := group_eq_feeding v column hpercent
  have hlength (k : SeriesKey) (percent : Double) :
      (Sample.group (v.samples column) k percent).length = (v.feeding column k percent).length := by
    rw [← List.length_map (·.value), hgroup, length_feeding]
  constructor
  · intro hnone
    rw [series_eq_samples, samples, hnone]
    rfl
  · apply (Sample.series_ascending (v.samples column)).imp
    intro k l hkl
    exact (SeriesKey.compare_eq_lt_iff k l).mp hkl
  · intro e he
    obtain ⟨-, hpoints⟩ := (Sample.mem_series_iff (v.samples column) e.1 e.2).mp he
    rw [hpoints, Sample.points_percents]
    apply (distinct_ascending _).imp
    intro x y hxy
    exact (Double.compare_eq_lt_iff x y).mp hxy
  · exact Sample.series_points_ne_nil (v.samples column)
  · intro k p
    rw [series_eq_samples, Sample.hasPoint_iff, ← List.length_pos_iff, hlength,
      List.length_pos_iff, hgroup,
      Double.mean, length_feeding]
    constructor
    · rintro ⟨hne, hvalue, htrials⟩
      rw [← htrials] at hvalue
      exact ⟨hne, htrials, hvalue⟩
    · rintro ⟨hne, htrials, hvalue⟩
      rw [htrials] at hvalue
      exact ⟨hne, hvalue, htrials⟩
  · rw [series_eq_samples, Sample.sum_trials_series, length_samples]

def mixedTrials : Table :=
  ((((Table.empty "trials.csv" [Column.insertTime]).add ⟨"B", 0.5, 0.5, [some 1]⟩).add
    ⟨"A", 0.5, 0.5, [some 3]⟩).add ⟨"A", 0.25, 0.5, [none]⟩).add ⟨"A", 0.5, 0.5, [some 5]⟩

theorem mixedTrials_partitioned :
    mixedTrials.Reachable ∧ (derive mixedTrials {}).Partitioned Column.insertTime
      [(⟨0.5, "A"⟩, [⟨50, 4, 2⟩]), (⟨0.5, "B"⟩, [⟨50, 1, 1⟩])] := by
  have hreachable : mixedTrials.Reachable := .add _ (.add _ (.add _ (.add _ (.empty _ _))))
  have hseries : (derive mixedTrials {}).series Column.insertTime =
      [(⟨0.5, "A"⟩, [⟨50, 4, 2⟩]), (⟨0.5, "B"⟩, [⟨50, 1, 1⟩])] := by decide +kernel
  have hpartitioned := series_partition mixedTrials hreachable {} Column.insertTime
  rw [hseries] at hpartitioned
  exact ⟨hreachable, hpartitioned⟩

end View

end BenchReport
