import BenchReport.Proofs.Double.Mean
import BenchReport.Proofs.Double.Order
import BenchReport.Proofs.Ordered
import BenchReport.Series

namespace BenchReport

open Std Ordered

instance : TransOrd SeriesKey :=
  inferInstanceAs (TransCmp (compareLex (compareOn SeriesKey.readRatio)
    (compareOn SeriesKey.treeType)))

theorem SeriesKey.compare_eq (k l : SeriesKey) :
    compare k l = (compare k.readRatio l.readRatio).then (compare k.treeType l.treeType) := rfl

instance : LawfulEqOrd SeriesKey where
  eq_of_compare {k l} h := by
    rw [SeriesKey.compare_eq, Ordering.then_eq_eq] at h
    obtain ⟨hr, ht⟩ := h
    rw [SeriesKey.mk.injEq]
    exact ⟨LawfulEqOrd.eq_of_compare hr, LawfulEqOrd.eq_of_compare ht⟩

namespace Sample

variable [Add Double] [Div Double]

def points (samples : List Sample) : List (Point Double) :=
  (distinct (samples.map (·.percent))).map fun p =>
    ⟨p, .mean ((samples.filter (·.percent = p)).map (·.value)),
      (samples.filter (·.percent = p)).length⟩

def pointOf (g : Double × Tally) : Point Double := ⟨g.1, g.2.mean, g.2.count⟩

theorem series_eq_map (samples : List Sample) :
    series samples = (samples.foldl gather []).map fun g => (g.1, g.2.map pointOf) := by
  simp only [series, seriesBy, List.idRun_mapM, Id.run_map]
  rfl

theorem foldl_tally (own : List Sample) : (own.foldl tally []).map pointOf = points own := by
  have hpoints : own.foldl tally [] =
      collect (·.percent) ({} : Tally) (fun t s => t.add s.value) own :=
    foldl_update Sample.percent ({} : Tally) (fun t s => t.add s.value) own
  rw [hpoints, collect, List.map_map]
  apply List.map_congr_left
  intro p _
  have hsum := Tally.foldl_add ((own.filter (·.percent = p)).map (·.value))
  rw [List.foldl_map] at hsum
  simp only [Function.comp_apply, hsum]
  exact congrArg (Point.mk p _) (List.length_map _)

theorem series_eq (samples : List Sample) :
    series samples = (distinct (samples.map (·.key))).map fun k =>
      (k, points (samples.filter (·.key = k))) := by
  have hseries : samples.foldl gather [] = collect (·.key) [] tally samples :=
    foldl_update Sample.key [] tally samples
  rw [series_eq_map, hseries, collect, List.map_map]
  apply List.map_congr_left
  intro k _
  exact congrArg (k, ·) (foldl_tally (samples.filter (·.key = k)))

theorem series_keys (samples : List Sample) :
    (series samples).map (·.1) = distinct (samples.map (·.key)) := by
  simp [series_eq, Function.comp_def]

theorem series_ascending (samples : List Sample) : Ascending ((series samples).map (·.1)) := by
  rw [series_keys]
  exact distinct_ascending _

theorem mem_series_iff (samples : List Sample) (k : SeriesKey) (ps : List (Point Double)) :
    (k, ps) ∈ series samples ↔
      k ∈ samples.map (·.key) ∧ ps = points (samples.filter (·.key = k)) := by
  simp only [series_eq, List.mem_map, mem_distinct, Prod.mk.injEq]
  constructor
  · rintro ⟨l, hl, rfl, rfl⟩
    exact ⟨hl, rfl⟩
  · rintro ⟨hk, rfl⟩
    exact ⟨k, hk, rfl, rfl⟩

theorem points_percents (samples : List Sample) :
    (points samples).map (·.percent) = distinct (samples.map (·.percent)) := by
  simp [points, Function.comp_def]

theorem points_ne_nil (samples : List Sample) (h : samples ≠ []) : points samples ≠ [] := by
  obtain ⟨s, hs⟩ := List.exists_mem_of_ne_nil samples h
  have hp : s.percent ∈ (points samples).map (·.percent) := by
    rw [points_percents, mem_distinct]
    exact List.mem_map_of_mem hs
  intro hnil
  simp [hnil] at hp

theorem series_points_ne_nil (samples : List Sample) (e : SeriesKey × List (Point Double))
    (h : e ∈ series samples) : e.2 ≠ [] := by
  obtain ⟨hk, he⟩ := (mem_series_iff samples e.1 e.2).mp h
  obtain ⟨s, hs, hkey⟩ := List.mem_map.mp hk
  rw [he]
  apply points_ne_nil
  exact List.ne_nil_of_mem (List.mem_filter.mpr ⟨hs, by simpa using hkey⟩)

theorem series_percents (samples : List Sample) (e : SeriesKey × List (Point Double))
    (h : e ∈ series samples) : e.2.Pairwise (·.percent.rank < ·.percent.rank) := by
  obtain ⟨-, he⟩ := (mem_series_iff samples e.1 e.2).mp h
  have hascending := distinct_ascending ((samples.filter (·.key = e.1)).map (·.percent))
  rw [← points_percents, ← he] at hascending
  apply (List.pairwise_map.mp hascending).imp
  intro p q hpq
  exact (Double.compare_eq_lt_iff _ _).mp hpq

theorem mem_points_iff (samples : List Sample) (q : Point Double) :
    q ∈ points samples ↔ q.percent ∈ samples.map (·.percent) ∧
      q.value = .mean ((samples.filter (·.percent = q.percent)).map (·.value)) ∧
      q.trials = (samples.filter (·.percent = q.percent)).length := by
  simp only [points, List.mem_map, mem_distinct]
  constructor
  · rintro ⟨p, hp, rfl⟩
    exact ⟨hp, rfl, rfl⟩
  · rintro ⟨hp, hv, ht⟩
    refine ⟨q.percent, hp, ?_⟩
    rw [← hv, ← ht]

def group (samples : List Sample) (k : SeriesKey) (percent : Double) : List Sample :=
  samples.filter fun s => s.key = k ∧ s.percent = percent

def HasPoint (series : List (SeriesKey × List (Point Double))) (k : SeriesKey)
    (q : Point Double) : Prop :=
  ∃ ps, (k, ps) ∈ series ∧ q ∈ ps

theorem hasPoint_iff (samples : List Sample) (k : SeriesKey) (q : Point Double) :
    HasPoint (series samples) k q ↔ group samples k q.percent ≠ [] ∧
      q.value = .mean ((group samples k q.percent).map (·.value)) ∧
      q.trials = (group samples k q.percent).length := by
  have hgroup : (samples.filter (·.key = k)).filter (·.percent = q.percent) =
      group samples k q.percent := by
    simp only [group, List.filter_filter, Bool.decide_and, Bool.and_comm]
  have hmem : group samples k q.percent ≠ [] ↔
      q.percent ∈ (samples.filter (·.key = k)).map (·.percent) := by
    simp [← hgroup, List.filter_eq_nil_iff, and_assoc, and_comm]
  constructor
  · rintro ⟨ps, hps, hq⟩
    obtain ⟨-, rfl⟩ := (mem_series_iff samples k ps).mp hps
    obtain ⟨hp, hv, ht⟩ := (mem_points_iff _ q).mp hq
    rw [hgroup] at hv ht
    exact ⟨hmem.mpr hp, hv, ht⟩
  · rintro ⟨hne, hv, ht⟩
    obtain ⟨s, hs, -⟩ := List.mem_map.mp (hmem.mp hne)
    have hk : k ∈ samples.map (·.key) := by
      obtain ⟨hs, hkey⟩ := List.mem_filter.mp hs
      exact List.mem_map.mpr ⟨s, hs, by simpa using hkey⟩
    refine ⟨_, (mem_series_iff samples k _).mpr ⟨hk, rfl⟩, (mem_points_iff _ q).mpr ?_⟩
    rw [hgroup]
    exact ⟨hmem.mp hne, hv, ht⟩

end Sample

theorem View.series_eq_samples [Add Double] [Mul Double] [Div Double] (v : View) (column : String) :
    v.series column = Sample.series (v.samples column) := rfl

end BenchReport
