import BenchReport.Proofs.Chart.Panels
import BenchReport.Proofs.Manifest
import BenchReport.Proofs.Rearrangement
import BenchReport.Proofs.Summary.Agreement

namespace BenchReport

open Ordered

variable {n : ℕ} {σ : Equiv.Perm (Fin n)}

namespace Row

variable [Mul Double]

def point (r : Row) : SeriesKey × Double := (⟨r.readRatio, r.treeType⟩, r.sortedness * 100)

theorem FeedsPoint.point_eq {r : Row} {k : SeriesKey} {percent : Double}
    (h : r.FeedsPoint k percent) : r.point = (k, percent) := by
  obtain ⟨hratio, htree, hpercent⟩ := h
  rw [point, hratio, htree, hpercent]

theorem point_eq_of_configuration (r q : Row) (h : r.configuration = q.configuration) :
    r.point = q.point := by
  simp only [configuration, Configuration.mk.injEq] at h
  obtain ⟨hratio, htree, hsortedness⟩ := h
  rw [point, point, hratio, htree, hsortedness]

end Row

namespace View

theorem baselineTimes_eq_filter (t : Table) (i : Nat) (baseline : String)
    (sortedness ratio : Double) :
    baselineTimes t i baseline sortedness ratio =
      (t.rows.filter (·.configuration = ⟨ratio, baseline, sortedness⟩)).filterMap (·.value i) := by
  rw [baselineTimes, List.filterMap_filter]
  apply List.filterMap_congr
  intro r _
  simp only [Row.configuration, Configuration.mk.injEq, decide_eq_true_eq]
  apply if_congr _ rfl rfl
  constructor
  · rintro ⟨htree, hsortedness, hratio⟩
    exact ⟨hratio, htree, hsortedness⟩
  · rintro ⟨hratio, htree, hsortedness⟩
    exact ⟨htree, hsortedness, hratio⟩

variable [Add Double] [Mul Double] [Div Double]

theorem derivers_eq_of_rearranged (t t' : Table) (o : DeriveOptions) (hcolumns : t'.columns = t.columns)
    (hrows : StablyRearranged Row.point σ t.rows t'.rows) : derivers t' o = derivers t o := by
  have hindex (name : String) : t'.columnIndex? name = t.columnIndex? name := by
    rw [Table.columnIndex?, hcolumns, Table.columnIndex?]
  have hrate : hitRate? t' o.trialCount = hitRate? t o.trialCount := by
    unfold hitRate?
    rw [hindex]
  have htimes (i : Nat) (sortedness ratio : Double) :
      baselineTimes t' i o.baseline sortedness ratio =
        baselineTimes t i o.baseline sortedness ratio := by
    rw [baselineTimes_eq_filter, baselineTimes_eq_filter]
    congr 1
    apply hrows.filter_eq
    intro r q hr hq
    apply Row.point_eq_of_configuration
    rw [of_decide_eq_true hr, of_decide_eq_true hq]
  have hspeedup (column : String) : speedup? t' column o.baseline = speedup? t column o.baseline := by
    unfold speedup?
    simp only [hindex, htimes, hrows.rearranged.perm.mem_iff]
  simp only [derivers, hrate, hspeedup]

theorem derive_rearranged (t t' : Table) (o : DeriveOptions) (hcolumns : t'.columns = t.columns)
    (hrows : StablyRearranged Row.point σ t.rows t'.rows) :
    StablyRearranged Row.point σ (derive t o).table.rows (derive t' o).table.rows := by
  rw [derive_table, derive_table, derivers_eq_of_rearranged t t' o hcolumns hrows]
  exact hrows.map (extend (derivers t o)) Row.point fun r => rfl

theorem derive_columns_of_rearranged (t t' : Table) (o : DeriveOptions)
    (hcolumns : t'.columns = t.columns) (hrows : StablyRearranged Row.point σ t.rows t'.rows) :
    (derive t' o).table.columns = (derive t o).table.columns := by
  rw [derive_table, derive_table, derivers_eq_of_rearranged t t' o hcolumns hrows, hcolumns]

end View

namespace Summary

variable [Add Double] [Div Double]

theorem ofView_eq (v : View) : ofView v = ⟨v.table.columns,
    (distinct (v.table.rows.map (·.configuration))).map
      (rowOf v.table.columns.length v.table.rows)⟩ := by
  rw [← rows_eq, ofView_eq_map]

theorem ofView_eq_of_rearranged [Mul Double] (v v' : View)
    (hcolumns : v'.table.columns = v.table.columns)
    (hrows : StablyRearranged Row.point σ v.table.rows v'.table.rows) : ofView v' = ofView v := by
  have hdistinct : distinct (v'.table.rows.map (·.configuration)) =
      distinct (v.table.rows.map (·.configuration)) := by
    apply distinct_congr
    intro c
    exact (hrows.rearranged.perm.map _).mem_iff
  have hrow : rowOf v.table.columns.length v'.table.rows =
      rowOf v.table.columns.length v.table.rows := by
    funext c
    have hfilter : v'.table.rows.filter (·.configuration = c) =
        v.table.rows.filter (·.configuration = c) := by
      apply hrows.filter_eq
      intro r q hr hq
      apply Row.point_eq_of_configuration
      rw [of_decide_eq_true hr, of_decide_eq_true hq]
    rw [rowOf, hfilter, rowOf]
  rw [ofView_eq, ofView_eq, hcolumns, hdistinct, hrow]

end Summary

namespace Sample

theorem group_eq_map_values (samples : List Sample) (k : SeriesKey) (percent : Double) :
    group samples k percent = ((group samples k percent).map (·.value)).map (⟨k, percent, ·⟩) := by
  conv_lhs => rw [← List.map_id (group samples k percent)]
  rw [List.map_map]
  apply List.map_congr_left
  intro s hs
  obtain ⟨hkey, hpercent⟩ := of_decide_eq_true (List.mem_filter.mp hs).2
  rw [Function.comp_apply, ← hkey, ← hpercent]
  rfl

theorem series_eq_of_values [Add Double] [Div Double] (as bs : List Sample)
    (h : ∀ k percent, (group as k percent).map (·.value) = (group bs k percent).map (·.value)) :
    series as = series bs := by
  have hgroup (k : SeriesKey) (percent : Double) : group as k percent = group bs k percent := by
    rw [group_eq_map_values as, group_eq_map_values bs, h]
  have hmem (s : Sample) : s ∈ as ↔ s ∈ bs := by
    have hown (samples : List Sample) : s ∈ samples ↔ s ∈ group samples s.key s.percent := by
      simp [group]
    rw [hown as, hown bs, hgroup]
  have hkeys : distinct (as.map (·.key)) = distinct (bs.map (·.key)) := by
    apply distinct_congr
    intro k
    simp only [List.mem_map, hmem]
  have hpoints (k : SeriesKey) :
      points (as.filter (·.key = k)) = points (bs.filter (·.key = k)) := by
    have hpercents : distinct ((as.filter (·.key = k)).map (·.percent)) =
        distinct ((bs.filter (·.key = k)).map (·.percent)) := by
      apply distinct_congr
      intro percent
      simp only [List.mem_map, List.mem_filter, hmem]
    have hfilter (samples : List Sample) (percent : Double) :
        (samples.filter (·.key = k)).filter (·.percent = percent) = group samples k percent := by
      simp only [group, List.filter_filter, Bool.decide_and, Bool.and_comm]
    simp only [points, hpercents, hfilter, hgroup]
  simp only [series_eq, hkeys, hpoints]

end Sample

namespace View

theorem series_eq_of_rearranged [Add Double] [Mul Double] [Div Double] (v v' : View)
    (hcolumns : v'.table.columns = v.table.columns)
    (hrows : StablyRearranged Row.point σ v.table.rows v'.table.rows)
    (hpercent : ∀ r ∈ v.table.rows, v.percent r = r.sortedness * 100)
    (hpercent' : ∀ r ∈ v'.table.rows, v'.percent r = r.sortedness * 100) (column : String) :
    v'.series column = v.series column := by
  apply Sample.series_eq_of_values
  intro k percent
  have hindex : v'.table.columnIndex? column = v.table.columnIndex? column := by
    rw [Table.columnIndex?, hcolumns, Table.columnIndex?]
  cases hi : v.table.columnIndex? column with
  | none => simp only [samples, hindex, hi]
  | some i =>
    rw [group_values v column i hi hpercent, group_values v' column i (hindex.trans hi) hpercent']
    congr 1
    apply hrows.filter_eq
    intro r q hr hq
    rw [(of_decide_eq_true hr).point_eq, (of_decide_eq_true hq).point_eq]

end View

theorem Manifest.plan_congr (m : Manifest) (v v' : View) (hsource : v'.table.source = v.table.source)
    (hcolumns : v'.table.columns = v.table.columns) : m.plan v' = m.plan v := by
  apply m.plan_eq_of_hasColumn v v' hsource
  intro name
  simp only [Table.hasColumn, Table.columnIndex?, hcolumns]

namespace View

/-- Whatever is meant by adding, multiplying and dividing, tables whose rows are the same but for
their order, with rows of one point in the same order, give views with the same order of rows and
the same summary, series, charts and plans. -/
theorem row_order_irrelevant [Add Double] [Mul Double] [Div Double] (t t' : Table)
    (ht : t.Reachable) (hsource : t'.source = t.source) (hcolumns : t'.columns = t.columns)
    (hrows : StablyRearranged Row.point σ t.rows t'.rows) (o : DeriveOptions) :
    (derive t' o).table.columns = (derive t o).table.columns ∧
      Rearranged σ (derive t o).table.rows (derive t' o).table.rows ∧
      Summary.ofView (derive t' o) = Summary.ofView (derive t o) ∧
      (∀ column, (derive t' o).series column = (derive t o).series column) ∧
      (∀ spec, Chart.build (derive t' o) spec = Chart.build (derive t o) spec) ∧
      ∀ m : Manifest, m.plan (derive t' o) = m.plan (derive t o) := by
  have ht' : t'.Rectangular := by
    intro r hr
    rw [hcolumns]
    exact ht.rectangular r (hrows.rearranged.perm.mem_iff.mp hr)
  have hderived := derive_rearranged t t' o hcolumns hrows
  have hnames := derive_columns_of_rearranged t t' o hcolumns hrows
  have hsources : (derive t' o).table.source = (derive t o).table.source := by
    rw [derive_table, derive_table, hsource]
  have hseries (column : String) : (derive t' o).series column = (derive t o).series column :=
    series_eq_of_rearranged _ _ hnames hderived (percent_derive t o ht.rectangular)
      (percent_derive t' o ht') column
  refine ⟨hnames, hderived.rearranged, ?_, hseries, ?_, ?_⟩
  · exact Summary.ofView_eq_of_rearranged _ _ hnames hderived
  · intro spec
    rw [Chart.build, hseries, Chart.build]
  · intro m
    exact m.plan_congr _ _ hsources hnames

def interleaved : Table :=
  (((Table.empty "trials.csv" [Column.insertTime]).add ⟨"SimpleBTree", 0.5, 0.5, [some 4]⟩).add
    ⟨"LasTree", 0.5, 0.5, [some 2]⟩).add ⟨"SimpleBTree", 0.5, 0.5, [some 2]⟩

def regrouped : Table :=
  (((Table.empty "trials.csv" [Column.insertTime]).add ⟨"LasTree", 0.5, 0.5, [some 2]⟩).add
    ⟨"SimpleBTree", 0.5, 0.5, [some 4]⟩).add ⟨"SimpleBTree", 0.5, 0.5, [some 2]⟩

theorem interleaved_order_irrelevant :
    interleaved.Reachable ∧
      StablyRearranged Row.point (Equiv.swap (0 : Fin 3) 1) interleaved.rows regrouped.rows ∧
      (derive interleaved {}).table.rows =
        [⟨"SimpleBTree", 0.5, 0.5, [some 4, some 50, some 0.75]⟩,
          ⟨"LasTree", 0.5, 0.5, [some 2, some 50, some 1.5]⟩,
          ⟨"SimpleBTree", 0.5, 0.5, [some 2, some 50, some 1.5]⟩] ∧
      Rearranged (Equiv.swap (0 : Fin 3) 1) (derive interleaved {}).table.rows
        (derive regrouped {}).table.rows ∧
      Summary.ofView (derive regrouped {}) = Summary.ofView (derive interleaved {}) ∧
      (∀ column, (derive regrouped {}).series column = (derive interleaved {}).series column) ∧
      ∀ m : Manifest, m.plan (derive regrouped {}) = m.plan (derive interleaved {}) := by
  have hreachable : interleaved.Reachable := .add _ (.add _ (.add _ (.empty _ _)))
  have hstable : StablyRearranged Row.point (Equiv.swap (0 : Fin 3) 1) interleaved.rows
      regrouped.rows := by
    refine ⟨fun i => interleaved.rows[i], ?_, ?_, ?_⟩ <;> decide +kernel
  have hrows : (derive interleaved {}).table.rows =
      [⟨"SimpleBTree", 0.5, 0.5, [some 4, some 50, some 0.75]⟩,
        ⟨"LasTree", 0.5, 0.5, [some 2, some 50, some 1.5]⟩,
        ⟨"SimpleBTree", 0.5, 0.5, [some 2, some 50, some 1.5]⟩] := by decide +kernel
  obtain ⟨-, hrearranged, hsummary, hseries, -, hplan⟩ :=
    row_order_irrelevant interleaved regrouped hreachable rfl rfl hstable {}
  exact ⟨hreachable, hstable, hrows, hrearranged, hsummary, hseries, hplan⟩

end View

end BenchReport
