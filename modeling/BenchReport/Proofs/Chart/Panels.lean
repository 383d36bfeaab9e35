import BenchReport.Chart.Panel
import BenchReport.Proofs.Series

namespace BenchReport

open Std Ordered

namespace Panel

def entries (p : Panel Double) : List (SeriesKey × List (Point Double)) :=
  p.series.map fun s => (⟨p.readRatio, s.treeType⟩, s.points)

def Styled (p : Panel Double) : Prop :=
  ∀ (i : Nat) (s : PanelSeries Double), p.series[i]? = some s → s.style = .ofLabel s.treeType i

end Panel

namespace Chart

theorem pushSeries_entries (p : Panel Double) (e : SeriesKey × List (Point Double))
    (h : p.readRatio = e.1.readRatio) : (pushSeries p e).entries = p.entries ++ [e] := by
  simp [Panel.entries, pushSeries, h]

theorem pushSeries_styled (p : Panel Double) (e : SeriesKey × List (Point Double)) (h : p.Styled) :
    (pushSeries p e).Styled := by
  intro i s hs
  rw [pushSeries, List.getElem?_append] at hs
  split_ifs at hs with hi
  · exact h i s hs
  · obtain ⟨hlast, rfl⟩ := List.getElem?_eq_some_iff.mp hs
    rw [List.length_singleton] at hlast
    have hplace : i = p.series.length := by omega
    simp [hplace]

/-- Panels, the last one first, that hold some series and nothing else. -/
structure Laid (panels : List (Panel Double)) (done : List (SeriesKey × List (Point Double))) :
    Prop where
  entries : panels.reverse.flatMap Panel.entries = done
  ratios : panels.Pairwise fun p q => compare q.readRatio p.readRatio = .lt
  filled : ∀ p ∈ panels, p.series ≠ []
  styled : ∀ p ∈ panels, p.Styled

theorem Laid.exists_key {panels : List (Panel Double)}
    {done : List (SeriesKey × List (Point Double))} (h : Laid panels done) (p : Panel Double)
    (hp : p ∈ panels) : ∃ d ∈ done, d.1.readRatio = p.readRatio := by
  obtain ⟨s, hs⟩ := List.exists_mem_of_ne_nil _ (h.filled p hp)
  refine ⟨(⟨p.readRatio, s.treeType⟩, s.points), ?_, rfl⟩
  rw [← h.entries]
  exact List.mem_flatMap.mpr ⟨p, List.mem_reverse.mpr hp, List.mem_map_of_mem hs⟩

theorem place_laid (panels : List (Panel Double)) (done : List (SeriesKey × List (Point Double)))
    (e : SeriesKey × List (Point Double)) (h : Laid panels done)
    (hlast : ∀ d ∈ done, compare d.1 e.1 = .lt) : Laid (place panels e) (done ++ [e]) := by
  have hopen : (pushSeries ⟨e.1.readRatio, [], []⟩ e).entries = [e] :=
    pushSeries_entries ⟨e.1.readRatio, [], []⟩ e rfl
  have hopenStyled : (pushSeries ⟨e.1.readRatio, [], []⟩ e).Styled := by
    apply pushSeries_styled
    intro i s hs
    simp at hs
  have hfilled (p : Panel Double) : (pushSeries p e).series ≠ [] := by simp [pushSeries]
  cases panels with
  | nil =>
    obtain rfl : [] = done := h.entries
    constructor
    · simpa [place] using hopen
    · exact List.pairwise_singleton _ _
    · simpa [place] using hfilled _
    · simpa [place] using hopenStyled
  | cons p ps =>
    obtain ⟨hbefore, hrest⟩ := List.pairwise_cons.mp h.ratios
    have hentries := h.entries
    rw [List.reverse_cons, List.flatMap_append, List.flatMap_singleton] at hentries
    simp only [place]
    split_ifs with heq
    · have hratio : p.readRatio = e.1.readRatio := LawfulEqOrd.eq_of_compare heq
      constructor
      · rw [List.reverse_cons, List.flatMap_append, List.flatMap_singleton,
          pushSeries_entries p e hratio, ← List.append_assoc, hentries]
      · exact List.pairwise_cons.mpr ⟨hbefore, hrest⟩
      · exact List.forall_mem_cons.mpr ⟨hfilled p, (List.forall_mem_cons.mp h.filled).2⟩
      · obtain ⟨hp, hps⟩ := List.forall_mem_cons.mp h.styled
        exact List.forall_mem_cons.mpr ⟨pushSeries_styled p e hp, hps⟩
    · -- the last panel is below the new read ratio, and all others are below the last panel
      have hbelow : compare p.readRatio e.1.readRatio = .lt := by
        obtain ⟨d, hd, hratio⟩ := h.exists_key p List.mem_cons_self
        have hkey := hlast d hd
        rw [SeriesKey.compare_eq, Ordering.then_eq_lt, hratio] at hkey
        rcases hkey with hlt | ⟨hsame, -⟩
        · exact hlt
        · exact absurd hsame heq
      constructor
      · rw [List.reverse_cons, List.flatMap_append, List.flatMap_singleton, h.entries, hopen]
      · refine List.pairwise_cons.mpr ⟨List.forall_mem_cons.mpr ⟨hbelow, ?_⟩, h.ratios⟩
        intro q hq
        exact TransCmp.lt_trans (hbefore q hq) hbelow
      · exact List.forall_mem_cons.mpr ⟨hfilled _, h.filled⟩
      · exact List.forall_mem_cons.mpr ⟨hopenStyled, h.styled⟩

theorem foldl_place_laid (series : List (SeriesKey × List (Point Double)))
    (h : Ascending (series.map (·.1))) : Laid (series.foldl place []) series := by
  have hrun (rest done : List (SeriesKey × List (Point Double))) (panels : List (Panel Double))
      (hasc : Ascending ((done ++ rest).map (·.1))) (hlaid : Laid panels done) :
      Laid (rest.foldl place panels) (done ++ rest) := by
    induction rest generalizing done panels with
    | nil => simpa using hlaid
    | cons e rest ih =>
      have hlast : ∀ d ∈ done, compare d.1 e.1 = .lt := by
        intro d hd
        exact (List.pairwise_append.mp (List.pairwise_map.mp hasc)).2.2 d hd e List.mem_cons_self
      have hstep := place_laid panels done e hlaid hlast
      have hnext := ih (done ++ [e]) (place panels e)
      rw [List.append_assoc, List.singleton_append] at hnext
      exact hnext hasc hstep
  exact hrun series [] [] h ⟨rfl, .nil, by simp, by simp⟩

theorem Laid.treeTypes_ascending {panels : List (Panel Double)}
    {done : List (SeriesKey × List (Point Double))} (h : Laid panels done)
    (hasc : Ascending (done.map (·.1))) (p : Panel Double) (hp : p ∈ panels) :
    Ascending (p.series.map (·.treeType)) := by
  have hsub : p.entries.Sublist done := by
    rw [← h.entries]
    exact List.sublist_flatten_of_mem (List.mem_map_of_mem (List.mem_reverse.mpr hp))
  have hentries := (List.pairwise_map.mp hasc).sublist hsub
  refine List.pairwise_map.mpr ((List.pairwise_map.mp hentries).imp ?_)
  intro s s' hlt
  simpa [SeriesKey.compare_eq] using hlt

theorem Laid.map_markTicks {panels : List (Panel Double)}
    {done : List (SeriesKey × List (Point Double))} (h : Laid panels done) :
    Laid (panels.map markTicks) done := by
  constructor
  · rw [← List.map_reverse, List.flatMap_map]
    exact h.entries
  · exact List.pairwise_map.mpr h.ratios
  · exact List.forall_mem_map.mpr h.filled
  · exact List.forall_mem_map.mpr h.styled

theorem build_laid (v : View) (spec : ChartSpec) :
    Laid (build v spec).panels.reverse (v.series spec.metric) := by
  rw [build, panelsOf, ← List.map_reverse, List.reverse_reverse]
  exact (foldl_place_laid (v.series spec.metric) (Sample.series_ascending _)).map_markTicks

/-- The layout of a chart is the series of its metric cut into panels: nothing is lost, doubled or
moved, there is one panel for each read ratio, and each series is styled for its place. -/
theorem build_cuts_series (v : View) (spec : ChartSpec) :
    (build v spec).panels.flatMap Panel.entries = v.series spec.metric ∧
      Ascending ((build v spec).panels.map (·.readRatio)) ∧
      ∀ p ∈ (build v spec).panels, p.series ≠ [] ∧ (∀ s ∈ p.series, s.points ≠ []) ∧
        Ascending (p.series.map (·.treeType)) ∧
        ∀ (i : Nat) (s : PanelSeries Double), p.series[i]? = some s →
          s.style = .ofLabel s.treeType i := by
  have hasc : Ascending ((v.series spec.metric).map (·.1)) := Sample.series_ascending _
  have hlaid := foldl_place_laid (v.series spec.metric) hasc
  have hentries : (build v spec).panels.flatMap Panel.entries = v.series spec.metric := by
    rw [← hlaid.entries, build, panelsOf, List.flatMap_map]
    rfl
  refine ⟨hentries, ?_, ?_⟩
  · rw [build, panelsOf, List.map_map]
    exact List.pairwise_map.mpr (List.pairwise_reverse.mpr hlaid.ratios)
  · intro p' hp'
    obtain ⟨p, hp, rfl⟩ := List.mem_map.mp hp'
    rw [List.mem_reverse] at hp
    refine ⟨hlaid.filled p hp, ?_, hlaid.treeTypes_ascending hasc p hp, hlaid.styled p hp⟩
    intro s hs
    have hmem : (⟨p.readRatio, s.treeType⟩, s.points) ∈ v.series spec.metric := by
      rw [← hentries]
      exact List.mem_flatMap.mpr ⟨_, hp', List.mem_map_of_mem hs⟩
    exact Sample.series_points_ne_nil _ _ hmem

end Chart

end BenchReport
