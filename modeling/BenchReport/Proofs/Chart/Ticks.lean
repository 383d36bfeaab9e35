import BenchReport.Chart.Drawing
import BenchReport.Proofs.Chart.Panels

namespace BenchReport

open Ordered

theorem forall₂_filterMap {α β : Type} (f : α → Option β) (as : List α)
    (h : ∀ a ∈ as, (f a).isSome) : List.Forall₂ (fun b a => f a = some b) (as.filterMap f) as := by
  induction as with
  | nil => exact .nil
  | cons a as ih =>
    obtain ⟨ha, has⟩ := List.forall_mem_cons.mp h
    obtain ⟨b, hb⟩ := Option.isSome_iff_exists.mp ha
    rw [List.filterMap_cons_some hb]
    exact .cons hb (ih has)

theorem filterMap_eq_zipWith {α β γ : Type} {f : α → Option β} {as : List α} {bs : List β}
    (g : β → α → γ) (h : List.Forall₂ (fun b a => f a = some b) bs as) :
    (as.filterMap fun a => (f a).map (g · a)) = List.zipWith g bs as := by
  induction h with
  | nil => rfl
  | cons hb _ ih => simp [hb, ih]

namespace Panel

def barTicks (p : Panel Double) (s : PanelSeries Double) : List Nat :=
  s.points.filterMap fun q => p.tickIndex? q.percent

def barSlots (p : Panel Double) : List (Nat × Nat) :=
  (p.series.mapIdx fun i s => (p.barTicks s).map (·, i)).flatten

structure Ticked (p : Panel Double) : Prop where
  ascending : p.ticks.Pairwise (·.rank < ·.rank)
  percents : ∀ x, x ∈ p.ticks ↔ ∃ s ∈ p.series, ∃ q ∈ s.points, q.percent = x
  found : ∀ s ∈ p.series, ∀ q ∈ s.points, ∃ i, p.tickIndex? q.percent = some i ∧
    ∀ j, p.ticks[j]? = some q.percent ↔ j = i
  missing : ∀ x, (∀ s ∈ p.series, ∀ q ∈ s.points, q.percent ≠ x) → p.tickIndex? x = none
  bars : ∀ s ∈ p.series,
    List.Forall₂ (fun tick q => p.ticks[tick]? = some q.percent) (p.barTicks s) s.points
  inOrder : ∀ s ∈ p.series, (p.barTicks s).Pairwise (· < ·)
  slots : p.barSlots.Nodup

section

variable (p : Panel Double) (hticks : p.ticks.Pairwise (·.rank < ·.rank))

include hticks

theorem ticks_nodup : p.ticks.Nodup := by
  apply hticks.imp
  rintro x y hxy rfl
  exact Int.lt_irrefl _ hxy

theorem tickIndex?_eq_some_iff (x : Double) (i : Nat) :
    p.tickIndex? x = some i ↔ p.ticks[i]? = some x := by
  rw [tickIndex?, List.idxOf?_eq_some_iff, List.getElem?_eq_some_iff]
  constructor
  · rintro ⟨hi, hx, -⟩
    exact ⟨hi, hx⟩
  · rintro ⟨hi, hx⟩
    refine ⟨hi, hx, ?_⟩
    intro j hj hjx
    have hsame : j = i := (p.ticks_nodup hticks).getElem_inj_iff.mp (hjx.trans hx.symm)
    omega

theorem exists_tickIndex? (x : Double) (hx : x ∈ p.ticks) :
    ∃ i, p.tickIndex? x = some i ∧ ∀ j, p.ticks[j]? = some x ↔ j = i := by
  obtain ⟨i, hi⟩ := List.mem_iff_getElem?.mp hx
  have hindex := (p.tickIndex?_eq_some_iff hticks x i).mpr hi
  refine ⟨i, hindex, ?_⟩
  intro j
  rw [← p.tickIndex?_eq_some_iff hticks, hindex, Option.some.injEq, eq_comm]

theorem lt_of_rank_lt (x y : Double) (i j : Nat) (hx : p.ticks[i]? = some x)
    (hy : p.ticks[j]? = some y) (hxy : x.rank < y.rank) : i < j := by
  obtain ⟨hi, rfl⟩ := List.getElem?_eq_some_iff.mp hx
  obtain ⟨hj, rfl⟩ := List.getElem?_eq_some_iff.mp hy
  rcases Nat.lt_trichotomy i j with hlt | rfl | hgt
  · exact hlt
  · exact absurd hxy (Int.lt_irrefl _)
  · have hback := List.pairwise_iff_getElem.mp hticks j i hj hi hgt
    omega

theorem barTicks_inOrder (s : PanelSeries Double)
    (hpoints : s.points.Pairwise (·.percent.rank < ·.percent.rank)) :
    (p.barTicks s).Pairwise (· < ·) := by
  apply List.Pairwise.filterMap _ _ hpoints
  intro q q' hqq' i hi j hj
  exact p.lt_of_rank_lt hticks _ _ i j ((p.tickIndex?_eq_some_iff hticks _ i).mp hi)
    ((p.tickIndex?_eq_some_iff hticks _ j).mp hj) hqq'

end

variable (p : Panel Double)

theorem barSlots_nodup (h : ∀ s ∈ p.series, (p.barTicks s).Pairwise (· < ·)) :
    p.barSlots.Nodup := by
  apply List.nodup_flatten.mpr
  constructor
  · intro slots hslots
    obtain ⟨i, hi, rfl⟩ := List.mem_mapIdx.mp hslots
    have hticks : (p.barTicks p.series[i]).Nodup := (h _ (List.getElem_mem hi)).imp Nat.ne_of_lt
    apply hticks.map
    intro tick tick' hslot
    exact (Prod.mk.inj hslot).1
  · -- bars of different series differ in their place
    apply List.pairwise_iff_getElem.mpr
    intro i j hi hj hij slot hslot hslot'
    rw [List.getElem_mapIdx] at hslot hslot'
    obtain ⟨tick, -, rfl⟩ := List.mem_map.mp hslot
    obtain ⟨tick', -, hsame⟩ := List.mem_map.mp hslot'
    obtain ⟨-, hplace⟩ := Prod.mk.inj hsame
    omega

theorem ticked_of_distinct
    (hdistinct : p.ticks = distinct (p.series.flatMap fun s => s.points.map (·.percent)))
    (hpoints : ∀ s ∈ p.series, s.points.Pairwise (·.percent.rank < ·.percent.rank)) :
    p.Ticked := by
  have hticks : p.ticks.Pairwise (·.rank < ·.rank) := by
    rw [hdistinct]
    apply (distinct_ascending _).imp
    intro x y hxy
    exact (Double.compare_eq_lt_iff x y).mp hxy
  have hpercents (x : Double) :
      x ∈ p.ticks ↔ ∃ s ∈ p.series, ∃ q ∈ s.points, q.percent = x := by
    rw [hdistinct, mem_distinct]
    simp only [List.mem_flatMap, List.mem_map]
  have hfound (s : PanelSeries Double) (hs : s ∈ p.series) (q : Point Double) (hq : q ∈ s.points) :=
    p.exists_tickIndex? hticks q.percent ((hpercents q.percent).mpr ⟨s, hs, q, hq, rfl⟩)
  have hinOrder (s : PanelSeries Double) (hs : s ∈ p.series) : (p.barTicks s).Pairwise (· < ·) :=
    p.barTicks_inOrder hticks s (hpoints s hs)
  refine ⟨hticks, hpercents, hfound, ?_, ?_, hinOrder, p.barSlots_nodup hinOrder⟩
  · intro x hx
    apply List.idxOf?_eq_none_iff.mpr
    rw [hpercents]
    rintro ⟨s, hs, q, hq, hqx⟩
    exact hx s hs q hq hqx
  · intro s hs
    have hsome : ∀ q ∈ s.points, (p.tickIndex? q.percent).isSome := by
      intro q hq
      obtain ⟨i, hi, -⟩ := hfound s hs q hq
      rw [hi]
      rfl
    apply (forall₂_filterMap _ s.points hsome).imp
    intro tick q htick
    exact (p.tickIndex?_eq_some_iff hticks _ _).mp htick

variable {p}

theorem Ticked.seriesBars_eq (h : p.Ticked) (f : Drawing.Frame) (i : Nat) (s : PanelSeries Double)
    (hs : s ∈ p.series) :
    Drawing.seriesBars f p i s = List.zipWith
      (fun tick q => Drawing.bar f s.style (barSpan barGroupWidth tick i p.series.length) q.value)
      (p.barTicks s) s.points := by
  have hindices : List.Forall₂ (fun tick q => p.tickIndex? q.percent = some tick) (p.barTicks s)
      s.points := by
    apply (h.bars s hs).imp
    intro tick q htick
    exact (p.tickIndex?_eq_some_iff h.ascending _ _).mpr htick
  exact filterMap_eq_zipWith _ hindices

theorem Ticked.shapes_eq (h : p.Ticked) (spec : ChartSpec) (hkind : spec.kind = .bar) (n : Nat) :
    (Drawing.panel spec n p).shapes = (p.series.mapIdx fun i s => List.zipWith
      (fun tick q => Drawing.bar (Drawing.frame n spec p) s.style
        (barSpan barGroupWidth tick i p.series.length) q.value)
      (p.barTicks s) s.points).flatten := by
  have hshapes : (Drawing.panel spec n p).shapes =
      (p.series.mapIdx (Drawing.seriesBars (Drawing.frame n spec p) p)).flatten := if_pos hkind
  rw [hshapes]
  congr 1
  apply List.mapIdx_eq_mapIdx_iff.mpr
  intro i hi
  exact h.seriesBars_eq _ i _ (List.getElem_mem hi)

end Panel

namespace Chart

variable (v : View) (spec : ChartSpec) (p : Panel Double)

theorem mem_series_of_panel (hp : p ∈ (build v spec).panels) (s : PanelSeries Double)
    (hs : s ∈ p.series) :
    ((⟨p.readRatio, s.treeType⟩ : SeriesKey), s.points) ∈ v.series spec.metric := by
  have hentries := (build_laid v spec).entries
  rw [List.reverse_reverse] at hentries
  rw [← hentries]
  exact List.mem_flatMap.mpr ⟨p, hp, List.mem_map_of_mem hs⟩

theorem build_ticks (hp : p ∈ (build v spec).panels) :
    p.ticks = distinct (p.series.flatMap fun s => s.points.map (·.percent)) := by
  obtain ⟨q, -, rfl⟩ := List.mem_map.mp hp
  rfl

/-- The ticks of a panel are the percents of its points. Each point finds its tick, and so the bars
of a series are one for each of its points, from tick to tick, at places that no other bar of the
panel has. -/
theorem build_ticked (hp : p ∈ (build v spec).panels) :
    p.Ticked ∧ (spec.kind = .bar → ∀ n, (Drawing.panel spec n p).shapes =
      (p.series.mapIdx fun i s => List.zipWith
        (fun tick q => Drawing.bar (Drawing.frame n spec p) s.style
          (barSpan barGroupWidth tick i p.series.length) q.value)
        (p.barTicks s) s.points).flatten) := by
  have hticked : p.Ticked := by
    apply p.ticked_of_distinct (build_ticks v spec p hp)
    intro s hs
    exact Sample.series_percents _ _ (mem_series_of_panel v spec p hp s hs)
  exact ⟨hticked, hticked.shapes_eq spec⟩

def mixedTicks : Table :=
  ((((Table.empty "ticks.csv" [Column.insertTime]).add ⟨"B", 0.75, 0.5, [some 3]⟩).add
    ⟨"A", 0.25, 0.5, [some 1]⟩).add ⟨"B", 0.5, 0.5, [some 4]⟩).add ⟨"A", 0.75, 0.5, [some 2]⟩

def timeBars : ChartSpec := ⟨Column.insertTime, "times", "Times", "Insert Time", .bar, none⟩

def mixedPanel : Panel Double :=
  ⟨0.5, [25, 50, 75], [⟨"A", .ofLabel "A" 0, [⟨25, 1, 1⟩, ⟨75, 2, 1⟩]⟩,
    ⟨"B", .ofLabel "B" 1, [⟨50, 4, 1⟩, ⟨75, 3, 1⟩]⟩]⟩

theorem mixedTicks_ticked :
    (build (View.derive mixedTicks {}) timeBars).panels = [mixedPanel] ∧ mixedPanel.Ticked ∧
      mixedPanel.barSlots = [(0, 0), (2, 0), (1, 1), (2, 1)] ∧
      (Drawing.panel timeBars 0 mixedPanel).shapes =
        [Drawing.bar (Drawing.frame 0 timeBars mixedPanel) (.ofLabel "A" 0)
            (barSpan barGroupWidth 0 0 2) 1,
          Drawing.bar (Drawing.frame 0 timeBars mixedPanel) (.ofLabel "A" 0)
            (barSpan barGroupWidth 2 0 2) 2,
          Drawing.bar (Drawing.frame 0 timeBars mixedPanel) (.ofLabel "B" 1)
            (barSpan barGroupWidth 1 1 2) 4,
          Drawing.bar (Drawing.frame 0 timeBars mixedPanel) (.ofLabel "B" 1)
            (barSpan barGroupWidth 2 1 2) 3] := by
  have hpanels : (build (View.derive mixedTicks {}) timeBars).panels = [mixedPanel] := by
    decide +kernel
  obtain ⟨hticked, hshapes⟩ := build_ticked (View.derive mixedTicks {}) timeBars mixedPanel
    (by simp [hpanels])
  refine ⟨hpanels, hticked, by decide +kernel, ?_⟩
  rw [hshapes rfl 0]
  rfl

end Chart

end BenchReport
