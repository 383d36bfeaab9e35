import BenchReport.Proofs.Chart.OwnData
import BenchReport.Proofs.Manifest

namespace BenchReport

namespace View

structure ReadsAs (w v : View) : Prop where
  hasColumn : ∀ name, w.table.hasColumn name = v.table.hasColumn name
  columnValues : ∀ name, w.table.columnValues? name = v.table.columnValues? name
  percents : w.table.rows.map w.percent = v.table.rows.map v.percent
  series : ∀ name, w.series name = v.series name
  charts : ∀ spec, Chart.build w spec = Chart.build v spec
  plans : ∀ m : Manifest, m.plan w = m.plan v

theorem percent_of_short (v : View) (r : Row) (h : r.values.length ≤ v.percentIndex) :
    v.percent r = r.sortedness * 100 := by
  rw [percent, Row.value, List.getElem?_eq_none h]
  rfl

theorem percent_extend (v : View) (ds : List Deriver) (r : Row)
    (h : v.percentIndex < r.values.length) : v.percent (extend ds r) = v.percent r := by
  rw [percent, Row.value, extend, List.getElem?_append_left h]
  rfl

theorem derive_width (t : Table) (o : DeriveOptions) :
    t.columns.length < (derive t o).table.columns.length := by
  rw [derive_table, derivers]
  simp

theorem derivedColumns_lookup_source (t : Table) (o : DeriveOptions) (column : String × String)
    (hcolumn : column ∈ Column.sources) :
    (derivedColumns t o).lookup column.1 = none := by
  have hsources : ∀ c ∈ Column.sources, c.1 ∉
      [Column.sortednessPercent, Column.fastPathHitRate] ++ Column.speedups.map (·.2) := by decide
  apply List.lookup_eq_none_iff.mpr
  intro c hc
  have hname := (derivedColumns_names t o).subset (List.mem_map_of_mem hc)
  have hne : column.1 ≠ c.1 := fun heq => hsources column hcolumn (heq ▸ hname)
  simpa using hne

section

variable (t : Table) (o : DeriveOptions) (h : t.Rectangular)

include h

theorem derivedColumns_derive_lookup (name : String) :
    (derivedColumns (derive t o).table o).lookup name = (derivedColumns t o).lookup name := by
  apply derivedColumns_lookup_congr t _ o name (derive_configurations t o)
  intro source hsource
  rw [derive_columnValues? t o h, derivedColumns_lookup_source t o (source, name) hsource,
    Option.or_none]

theorem derive_derive_columnValues? (name : String) :
    (derive (derive t o).table o).table.columnValues? name =
      (derive t o).table.columnValues? name := by
  rw [derive_columnValues? _ o (derive_rectangular t o h), derivedColumns_derive_lookup t o h,
    derive_columnValues? t o h, Option.or_assoc, Option.or_self]

theorem percents_derive : (derive t o).table.rows.map (derive t o).percent =
    (t.rows.map (·.configuration)).map (·.sortedness * 100) := by
  rw [← derive_configurations t o, List.map_map]
  exact List.map_congr_left (percent_derive t o h)

theorem derive_derive_percent (r : Row) (hr : r.values.length ≤ t.columns.length ∨
    r ∈ (derive t o).table.rows ∨ r ∈ (derive (derive t o).table o).table.rows) :
    (derive t o).percent r = r.sortedness * 100 ∧
      (derive (derive t o).table o).percent r = r.sortedness * 100 := by
  have hwide := derive_rectangular t o h
  rcases hr with hr | hr | hr
  · exact ⟨percent_of_short _ r hr, percent_of_short _ r (hr.trans (derive_width t o).le)⟩
  · exact ⟨percent_derive t o h r hr, percent_of_short _ r (hwide r hr).le⟩
  · refine ⟨?_, percent_derive _ o hwide r hr⟩
    rw [derive_table] at hr
    obtain ⟨q, hq, rfl⟩ := List.mem_map.mp hr
    have hlt : (derive t o).percentIndex < q.values.length := by
      rw [hwide q hq]
      exact derive_width t o
    rw [percent_extend _ _ q hlt]
    exact percent_derive t o h q hq

end

/-- A view that is derived from a view reads as that view: each name finds what it found before,
and so all series, charts and plans are the same. A row has the same percent in both, whether it
fits the table or is a row of one of the views. -/
theorem derive_derive_readsAs (t : Table) (ht : t.Reachable) (o : DeriveOptions) :
    ReadsAs (derive (derive t o).table o) (derive t o) ∧
      ∀ r, r.values.length ≤ t.columns.length ∨ r ∈ (derive t o).table.rows ∨
          r ∈ (derive (derive t o).table o).table.rows →
        (derive (derive t o).table o).percent r = (derive t o).percent r := by
  have h := ht.rectangular
  have hwide := derive_rectangular t o h
  have hvalues := derive_derive_columnValues? t o h
  have hhas (name : String) : (derive (derive t o).table o).table.hasColumn name =
      (derive t o).table.hasColumn name := by
    rw [Table.hasColumn_eq_isSome, hvalues, Table.hasColumn_eq_isSome]
  have hseries (name : String) : (derive (derive t o).table o).series name =
      (derive t o).series name :=
    series_congr t _ o name h hwide (derive_configurations t o) (hvalues name)
  refine ⟨⟨hhas, hvalues, ?_, hseries, ?_, ?_⟩, ?_⟩
  · rw [percents_derive _ o hwide, percents_derive t o h, derive_configurations t o]
  · intro spec
    rw [Chart.build, hseries, ← Chart.build]
  · intro m
    apply m.plan_eq_of_hasColumn _ _ _ hhas
    rw [derive_table]
  · intro r hr
    obtain ⟨hfirst, hsecond⟩ := derive_derive_percent t o h r hr
    rw [hfirst, hsecond]

def ownSpeedup : Table :=
  ((Table.empty "own.csv" [Column.insertTime, Column.insertSpeedup, Column.fastPathHits]).add
    ⟨"SimpleBTree", 0.5, 0.5, [some 3, none, some 10]⟩).add
      ⟨"LasTree", 0.5, 0.5, [some 2, some 7, none]⟩

def twentyTrials : DeriveOptions := ⟨some 20, defaultBaseline⟩

def ownSpeedupView : View := derive ownSpeedup twentyTrials

theorem ownSpeedup_readsAs :
    ownSpeedup.Reachable ∧
      (derive ownSpeedupView.table twentyTrials).table.columns =
        [Column.insertTime, Column.insertSpeedup, Column.fastPathHits, Column.sortednessPercent,
          Column.fastPathHitRate, Column.insertSpeedup, Column.sortednessPercent,
          Column.fastPathHitRate, Column.insertSpeedup] ∧
      ownSpeedupView.table.columnValues? Column.insertSpeedup = some [none, some 7] ∧
      ReadsAs (derive ownSpeedupView.table twentyTrials) ownSpeedupView ∧
      ∀ r ∈ ownSpeedup.rows,
        (derive ownSpeedupView.table twentyTrials).percent r = ownSpeedupView.percent r := by
  have hreachable : ownSpeedup.Reachable := .add _ (.add _ (.empty _ _))
  obtain ⟨hreads, hpercent⟩ := derive_derive_readsAs ownSpeedup hreachable twentyTrials
  refine ⟨hreachable, by decide +kernel, by decide +kernel, hreads, ?_⟩
  intro r hr
  exact hpercent r (.inl (hreachable.rectangular r hr).le)

end View

end BenchReport
