import BenchReport.Proofs.Series
import BenchReport.Proofs.Summary
import BenchReport.Proofs.Table.Reachable

namespace BenchReport

namespace SummaryRow

def ShownAt [Mul Double] (r : SummaryRow) (i : Nat) (k : SeriesKey) (percent : Double) : Prop :=
  r.configuration.readRatio = k.readRatio ∧ r.configuration.treeType = k.treeType ∧
    r.configuration.sortedness * 100 = percent ∧ (r.mean i).isSome

end SummaryRow

namespace Row

variable [Mul Double]

def FeedsPoint (r : Row) (k : SeriesKey) (percent : Double) : Prop :=
  r.readRatio = k.readRatio ∧ r.treeType = k.treeType ∧ r.sortedness * 100 = percent

instance (r : Row) (k : SeriesKey) (percent : Double) : Decidable (r.FeedsPoint k percent) :=
  inferInstanceAs (Decidable (_ ∧ _ ∧ _))

end Row

namespace View

variable [Mul Double]

theorem group_values (v : View) (column : String) (i : Nat)
    (hi : v.table.columnIndex? column = some i)
    (hpercent : ∀ r ∈ v.table.rows, v.percent r = r.sortedness * 100)
    (k : SeriesKey) (percent : Double) :
    (Sample.group (v.samples column) k percent).map (·.value) =
      (v.table.rows.filter (·.FeedsPoint k percent)).filterMap (·.value i) := by
  simp only [View.samples, hi, Sample.group, List.filter_filterMap, List.map_filterMap,
    List.filterMap_filter]
  apply List.filterMap_congr
  intro r hr
  have hkey : (⟨r.readRatio, r.treeType⟩ : SeriesKey) = k ∧ v.percent r = percent ↔
      r.FeedsPoint k percent := by
    rw [hpercent r hr, Row.FeedsPoint, ← and_assoc]
    cases k
    simp
  cases hv : r.value i with
  | none => simp
  | some x =>
    by_cases h : r.FeedsPoint k percent
    · simp [Option.filter, hkey.mpr h, h]
    · have hn := mt hkey.mp h
      simp [Option.filter, hn, h]

theorem group_ne_nil_iff (v : View) (column : String) (i : Nat)
    (hi : v.table.columnIndex? column = some i)
    (hpercent : ∀ r ∈ v.table.rows, v.percent r = r.sortedness * 100)
    (k : SeriesKey) (percent : Double) :
    Sample.group (v.samples column) k percent ≠ [] ↔
      ∃ r ∈ v.table.rows, r.FeedsPoint k percent ∧ (r.value i).isSome := by
  have hnil : Sample.group (v.samples column) k percent = [] ↔
      (v.table.rows.filter (·.FeedsPoint k percent)).filterMap (·.value i) = [] := by
    rw [← group_values v column i hi hpercent k percent, List.map_eq_nil_iff]
  rw [Ne, hnil, List.filterMap_eq_nil_iff]
  simp [Option.isSome_iff_ne_none]

end View

namespace Summary

variable [Add Double] [Mul Double] [Div Double]

theorem rowOf_shownAt_iff (v : View) (c : Configuration) (i : Nat) (hi : i < v.table.columns.length)
    (k : SeriesKey) (percent : Double) :
    (rowOf v.table.columns.length v.table.rows c).ShownAt i k percent ↔
      c.readRatio = k.readRatio ∧ c.treeType = k.treeType ∧ c.sortedness * 100 = percent ∧
        ∃ r ∈ v.table.rows, r.configuration = c ∧ (r.value i).isSome := by
  rw [SummaryRow.ShownAt, rowOf_mean _ _ _ _ hi, meanOver_isSome_iff]
  simp [rowOf, and_assoc]

theorem exists_shownAt (v : View) (i : Nat) (hi : i < v.table.columns.length) (k : SeriesKey)
    (percent : Double) (r : Row) (hr : r ∈ v.table.rows) (hfeeds : r.FeedsPoint k percent)
    (hvalue : (r.value i).isSome) :
    ∃ q ∈ (ofView v).rows, q.configuration = r.configuration ∧ q.ShownAt i k percent := by
  obtain ⟨hratio, htree, hsort⟩ := hfeeds
  refine ⟨rowOf v.table.columns.length v.table.rows r.configuration, ?_, rfl, ?_⟩
  · exact (mem_rows_iff v _).mpr ⟨List.mem_map_of_mem hr, rfl⟩
  · exact (rowOf_shownAt_iff v _ i hi k percent).mpr ⟨hratio, htree, hsort, r, hr, rfl, hvalue⟩

theorem exists_feedsPoint (v : View) (i : Nat) (hi : i < v.table.columns.length) (k : SeriesKey)
    (percent : Double) (q : SummaryRow) (hq : q ∈ (ofView v).rows) (h : q.ShownAt i k percent) :
    ∃ r ∈ v.table.rows, r.FeedsPoint k percent ∧ (r.value i).isSome := by
  obtain ⟨-, hrow⟩ := (mem_rows_iff v q).mp hq
  rw [hrow] at h
  obtain ⟨hratio, htree, hsort, r, hr, hc, hvalue⟩ := (rowOf_shownAt_iff v _ i hi k percent).mp h
  refine ⟨r, hr, ?_, hvalue⟩
  rw [← hc] at hratio htree hsort
  exact ⟨hratio, htree, hsort⟩

theorem feeding_values (v : View) (i : Nat) (hi : i < v.table.columns.length) (k : SeriesKey)
    (percent : Double) (q : SummaryRow) (h : q.ShownAt i k percent)
    (hunique : ∀ q' ∈ (ofView v).rows, q'.ShownAt i k percent → q' = q) :
    (v.table.rows.filter (·.FeedsPoint k percent)).filterMap (·.value i) =
      (v.table.rows.filter (·.configuration = q.configuration)).filterMap (·.value i) := by
  obtain ⟨hratio, htree, hsort, -⟩ := h
  rw [List.filterMap_filter, List.filterMap_filter]
  apply List.filterMap_congr
  intro r hr
  cases hv : r.value i with
  | none => simp
  | some x =>
    have hiff : r.FeedsPoint k percent ↔ r.configuration = q.configuration := by
      constructor
      · intro hfeeds
        obtain ⟨q', hq', hc, hshown⟩ := exists_shownAt v i hi k percent r hr hfeeds (by simp [hv])
        rw [← hc, hunique q' hq' hshown]
      · intro hc
        rw [← hc] at hratio htree hsort
        exact ⟨hratio, htree, hsort⟩
    simp [hiff]

end Summary

namespace View

/-- Whatever is meant by adding, multiplying and dividing, a series has a point exactly where the
summary has a mean. Where one configuration alone has it, the point is that mean, over no more rows
than the configuration has. -/
theorem series_agrees_with_summary [Add Double] [Mul Double] [Div Double] (t : Table)
    (ht : t.Reachable) (o : DeriveOptions) (column : String) (i : Nat)
    (hi : (derive t o).table.columnIndex? column = some i) (k : SeriesKey) (percent : Double) :
    ((∃ p, Sample.HasPoint ((derive t o).series column) k p ∧ p.percent = percent) ↔
        ∃ q ∈ (Summary.ofView (derive t o)).rows, q.ShownAt i k percent) ∧
      ∀ q ∈ (Summary.ofView (derive t o)).rows, q.ShownAt i k percent →
        (∀ q' ∈ (Summary.ofView (derive t o)).rows, q'.ShownAt i k percent → q' = q) →
        ∀ p, Sample.HasPoint ((derive t o).series column) k p → p.percent = percent →
          q.mean i = some p.value ∧ p.trials ≤ q.trials := by
  have hlt : i < (derive t o).table.columns.length := Table.columnIndex?_lt _ _ _ hi
  have hpercent := percent_derive t o ht.rectangular
  generalize derive t o = v at *
  have hne := group_ne_nil_iff v column i hi hpercent k percent
  constructor
  · constructor
    · rintro ⟨p, hp, rfl⟩
      obtain ⟨r, hr, hfeeds, hvalue⟩ := hne.mp ((Sample.hasPoint_iff _ k p).mp hp).1
      obtain ⟨q, hq, -, hshown⟩ := Summary.exists_shownAt v i hlt k _ r hr hfeeds hvalue
      exact ⟨q, hq, hshown⟩
    · rintro ⟨q, hq, hshown⟩
      have hgroup := hne.mpr (Summary.exists_feedsPoint v i hlt k percent q hq hshown)
      let p : Point Double := ⟨percent,
        .mean ((Sample.group (v.samples column) k percent).map (·.value)),
        (Sample.group (v.samples column) k percent).length⟩
      exact ⟨p, (Sample.hasPoint_iff _ k p).mpr ⟨hgroup, rfl, rfl⟩, rfl⟩
  · rintro q hq hshown hunique p hp rfl
    obtain ⟨-, hv, htrials⟩ := (Sample.hasPoint_iff _ k p).mp hp
    obtain ⟨-, hrow⟩ := (Summary.mem_rows_iff v q).mp hq
    have hvalues := group_values v column i hi hpercent k p.percent
    rw [Summary.feeding_values v i hlt k p.percent q hshown hunique] at hvalues
    constructor
    · have hsome : (q.mean i).isSome := hshown.2.2.2
      rw [hrow, Summary.rowOf_mean _ _ _ _ hlt, Summary.meanOver] at hsome ⊢
      split_ifs at hsome ⊢
      · simp at hsome
      · rw [hv, hvalues]
    · have htrialsEq : q.trials = (v.table.rows.filter (·.configuration = q.configuration)).length := by
        rw [hrow]
        rfl
      rw [htrials, htrialsEq, ← List.length_map (·.value), hvalues]
      exact List.length_filterMap_le _ _

def threeTrials : Table :=
  (((Table.empty "trials.csv" [Column.insertTime]).add ⟨"A", 0.5, 0.5, [some 1]⟩).add
    ⟨"A", 0.5, 0.5, [some 3]⟩).add ⟨"A", 0.5, 0.5, [none]⟩

theorem threeTrials_series_agrees :
    threeTrials.Reachable ∧
      (derive threeTrials {}).table.columnIndex? Column.insertTime = some 0 ∧
      (Summary.ofView (derive threeTrials {})).rows = [⟨⟨0.5, "A", 0.5⟩, 3, [some 2, some 50]⟩] ∧
      SummaryRow.ShownAt ⟨⟨0.5, "A", 0.5⟩, 3, [some 2, some 50]⟩ 0 ⟨0.5, "A"⟩ 50 ∧
      ∃ p, Sample.HasPoint ((derive threeTrials {}).series Column.insertTime) ⟨0.5, "A"⟩ p ∧
        p.percent = 50 ∧ some 2 = some p.value ∧ p.trials ≤ 3 := by
  have hreachable : threeTrials.Reachable := .add _ (.add _ (.add _ (.empty _ _)))
  have hindex : (derive threeTrials {}).table.columnIndex? Column.insertTime = some 0 := by
    decide +kernel
  have hrows : (Summary.ofView (derive threeTrials {})).rows =
      [⟨⟨0.5, "A", 0.5⟩, 3, [some 2, some 50]⟩] := by decide +kernel
  have hshown : SummaryRow.ShownAt ⟨⟨0.5, "A", 0.5⟩, 3, [some 2, some 50]⟩ 0 ⟨0.5, "A"⟩ 50 :=
    ⟨rfl, rfl, by decide +kernel, rfl⟩
  have hmem : ⟨⟨0.5, "A", 0.5⟩, 3, [some 2, some 50]⟩ ∈
      (Summary.ofView (derive threeTrials {})).rows := by
    rw [hrows]
    exact List.mem_singleton_self _
  obtain ⟨hpoint, hvalue⟩ := series_agrees_with_summary threeTrials hreachable {} Column.insertTime 0
    hindex ⟨0.5, "A"⟩ 50
  obtain ⟨p, hp, hpercent⟩ := hpoint.mpr ⟨_, hmem, hshown⟩
  have hunique : ∀ q ∈ (Summary.ofView (derive threeTrials {})).rows,
      q.ShownAt 0 ⟨0.5, "A"⟩ 50 → q = ⟨⟨0.5, "A", 0.5⟩, 3, [some 2, some 50]⟩ := by
    intro q hq _
    rw [hrows] at hq
    exact List.mem_singleton.mp hq
  exact ⟨hreachable, hindex, hrows, hshown, p, hp, hpercent,
    hvalue _ hmem hshown hunique p hp hpercent⟩

end View

end BenchReport
