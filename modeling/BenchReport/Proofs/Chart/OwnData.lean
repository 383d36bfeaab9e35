import BenchReport.Chart.Panel
import BenchReport.Proofs.Series
import BenchReport.Proofs.Table.Reachable
import BenchReport.Proofs.View.Derived

namespace BenchReport

namespace View

theorem samples_derive (t : Table) (o : DeriveOptions) (ht : t.Rectangular) (name : String) :
    (derive t o).samples name =
      ((t.rows.map (·.configuration)).zip
        (((derive t o).table.columnValues? name).getD [])).filterMap fun (c, cell) =>
          cell.map fun value => ⟨⟨c.readRatio, c.treeType⟩, c.sortedness * 100, value⟩ := by
  rw [samples_eq, ← derive_configurations t o, List.zip_map_left, List.filterMap_map]
  apply List.filterMap_congr
  rintro ⟨r, cell⟩ hr
  have hpercent := percent_derive t o ht r (List.of_mem_zip hr).1
  simp only [Function.comp_apply, Prod.map_apply, id_eq, Row.configuration, hpercent]

theorem series_congr (t t' : Table) (o : DeriveOptions) (name : String) (ht : t.Rectangular)
    (ht' : t'.Rectangular) (hrows : t'.rows.map (·.configuration) = t.rows.map (·.configuration))
    (hcells : (derive t' o).table.columnValues? name = (derive t o).table.columnValues? name) :
    (derive t' o).series name = (derive t o).series name := by
  rw [series_eq_samples, samples_derive t' o ht', hcells, hrows, ← samples_derive t o ht,
    ← series_eq_samples]

end View

namespace Chart

open View

theorem build_congr (t t' : Table) (o : DeriveOptions) (spec : ChartSpec) (ht : t.Rectangular)
    (ht' : t'.Rectangular) (hrows : t'.rows.map (·.configuration) = t.rows.map (·.configuration))
    (hcells : (derive t' o).table.columnValues? spec.metric =
      (derive t o).table.columnValues? spec.metric) :
    build (derive t' o) spec = build (derive t o) spec := by
  rw [build, series_congr t t' o spec.metric ht ht' hrows hcells, ← build]

/-- Two tables with the same configurations, row by row, give the same chart of a metric on whose
cells they agree. Where the metric is not a column of theirs but derived, they agree on the cells
that it is made from. -/
theorem build_reads_own_data (t t' : Table) (ht : t.Reachable) (ht' : t'.Reachable)
    (hrows : t'.rows.map (·.configuration) = t.rows.map (·.configuration)) (o : DeriveOptions)
    (spec : ChartSpec) (hmetric : t'.columnValues? spec.metric = t.columnValues? spec.metric)
    (hsource : spec.metric ∉ t.columns → ∀ source, (source, spec.metric) ∈ Column.sources →
      t'.columnValues? source = t.columnValues? source) :
    build (derive t' o) spec = build (derive t o) spec := by
  apply build_congr t t' o spec ht.rectangular ht'.rectangular hrows
  exact derive_columnValues?_congr t t' o spec.metric ht.rectangular ht'.rectangular hrows hmetric
    hsource

def lookedUp : Table :=
  ((Table.empty "lookups.csv" [Column.pointLookupTime, Column.searchTime]).add
    ⟨"SimpleBTree", 0.5, 0.5, [some 1, some 4]⟩).add ⟨"LasTree", 0.5, 0.5, [some 1, some 2]⟩

def notLookedUp : Table :=
  ((Table.empty "lookups.csv" [Column.pointLookupTime, Column.searchTime]).add
    ⟨"SimpleBTree", 0.5, 0.5, [none, some 4]⟩).add ⟨"LasTree", 0.5, 0.5, [some 9, some 2]⟩

def searchSpeedups : ChartSpec :=
  ⟨Column.searchSpeedup, "search_speedup", "Search Speedup", "Speedup Factor", .line, some 1⟩

theorem lookups_leave_search_speedups :
    lookedUp.Reachable ∧ notLookedUp.Reachable ∧ notLookedUp.columns = lookedUp.columns ∧
      notLookedUp.rows.map (·.configuration) = lookedUp.rows.map (·.configuration) ∧
      (derive lookedUp {}).table.columnIndex? Column.searchSpeedup = some 4 ∧
      (derive notLookedUp {}).table.columnIndex? Column.searchSpeedup = some 3 ∧
      (derive lookedUp {}).table.columnValues? Column.searchSpeedup = some [some 1, some 2] ∧
      build (derive notLookedUp {}) searchSpeedups = build (derive lookedUp {}) searchSpeedups := by
  have hreachable : lookedUp.Reachable := .add _ (.add _ (.empty _ _))
  have hreachable' : notLookedUp.Reachable := .add _ (.add _ (.empty _ _))
  have hrows : notLookedUp.rows.map (·.configuration) = lookedUp.rows.map (·.configuration) := by
    decide
  refine ⟨hreachable, hreachable', rfl, hrows, by decide +kernel, by decide +kernel,
    by decide +kernel, ?_⟩
  apply build_reads_own_data lookedUp notLookedUp hreachable hreachable' hrows {} searchSpeedups
  · decide
  · rintro - source hsource
    obtain rfl : source = Column.searchTime := by
      simpa [Column.sources, Column.speedups, searchSpeedups, Column.searchSpeedup,
        Column.fastPathHitRate, Column.insertSpeedup, Column.pointLookupSpeedup] using hsource
    decide

end Chart

end BenchReport
