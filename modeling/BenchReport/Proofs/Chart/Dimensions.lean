import BenchReport.Proofs.Chart.Panels
import Mathlib.Data.List.Nodup
import Mathlib.Data.List.ProdSigma

namespace BenchReport

open Ordered

namespace Table

def Fills (t : Table) (column : String) (r : Row) : Prop :=
  ((t.columnIndex? column).bind r.value).isSome

instance (t : Table) (column : String) (r : Row) : Decidable (t.Fills column r) :=
  inferInstanceAs (Decidable (_ = true))

theorem mem_readRatios_iff (t : Table) (ratio : Double) :
    ratio ∈ t.readRatios ↔ ∃ r ∈ t.rows, r.readRatio = ratio := by
  unfold readRatios
  rw [mem_distinct, List.mem_map]

theorem mem_treeTypes_iff (t : Table) (tree : String) :
    tree ∈ t.treeTypes ↔ ∃ r ∈ t.rows, r.treeType = tree := by
  unfold treeTypes
  rw [mem_distinct, List.mem_map]

theorem readRatios_ascending (t : Table) : Ascending t.readRatios := distinct_ascending _

theorem treeTypes_ascending (t : Table) : Ascending t.treeTypes := distinct_ascending _

end Table

namespace Event

def missingTree? (ratio : Double) : Event → Option String
  | treeMissing _ _ tree r => if r = ratio then some tree else none
  | _ => none

end Event

theorem filterMap_of_nodup {α β κ : Type} [DecidableEq κ] (key : α → κ) (f : α → Option β)
    (as : List α) (h : (as.map key).Nodup) (a : α) (ha : a ∈ as) :
    (as.filterMap fun b => if key b = key a then f b else none) = (f a).toList := by
  obtain ⟨before, after, rfl⟩ := List.append_of_mem ha
  have hothers : ∀ b ∈ before ++ after, key b ≠ key a := by
    rw [List.map_append, List.map_cons, List.nodup_middle, ← List.map_append] at h
    intro b hb hkey
    exact (List.nodup_cons.mp h).1 (hkey ▸ List.mem_map_of_mem hb)
  have hnone (bs : List α) (hbs : ∀ b ∈ bs, key b ≠ key a) :
      (bs.filterMap fun b => if key b = key a then f b else none) = [] :=
    List.filterMap_eq_nil_iff.mpr fun b hb => if_neg (hbs b hb)
  obtain ⟨hbefore, hafter⟩ := List.forall_mem_append.mp hothers
  rw [List.filterMap_append, List.filterMap_cons, if_pos rfl, hnone before hbefore,
    hnone after hafter]
  cases f a <;> rfl

namespace View

theorem mem_series_keys_iff (v : View) (column : String) (k : SeriesKey) :
    k ∈ (v.series column).map (·.1) ↔
      ∃ r ∈ v.table.rows, (⟨r.readRatio, r.treeType⟩ : SeriesKey) = k ∧ v.table.Fills column r := by
  rw [series_eq_samples, Sample.series_keys, mem_distinct]
  unfold samples Table.Fills
  cases v.table.columnIndex? column with
  | none => simp
  | some i =>
    simp only [List.map_filterMap, List.mem_filterMap, Option.map_map, Option.map_eq_some_iff,
      Option.bind_some, Option.isSome_iff_exists, Function.comp_apply, exists_and_right,
      and_comm]

end View

namespace Chart

variable (v : View) (spec : ChartSpec)

theorem build_ratios_ascending : Ascending ((build v spec).panels.map (·.readRatio)) :=
  List.pairwise_map.mpr (List.pairwise_reverse.mp (build_laid v spec).ratios)

theorem build_legend_ascending (p : Panel Double) (hp : p ∈ (build v spec).panels) :
    Ascending p.legend :=
  (build_laid v spec).treeTypes_ascending (Sample.series_ascending _) p (List.mem_reverse.mpr hp)

theorem exists_panel_iff (k : SeriesKey) :
    (∃ p ∈ (build v spec).panels, p.readRatio = k.readRatio ∧ k.treeType ∈ p.legend) ↔
      ∃ r ∈ v.table.rows, (⟨r.readRatio, r.treeType⟩ : SeriesKey) = k ∧
        v.table.Fills spec.metric r := by
  have hkeys : (v.series spec.metric).map (·.1) =
      (build v spec).panels.flatMap fun p => p.legend.map fun tree => ⟨p.readRatio, tree⟩ := by
    rw [← (build_laid v spec).entries, List.reverse_reverse, List.map_flatMap]
    simp only [Panel.entries, Panel.legend, List.map_map, Function.comp_def]
  rw [← View.mem_series_keys_iff, hkeys, List.mem_flatMap]
  constructor
  · rintro ⟨p, hp, hratio, htree⟩
    exact ⟨p, hp, List.mem_map.mpr ⟨k.treeType, htree, by rw [hratio]⟩⟩
  · rintro ⟨p, hp, hk⟩
    obtain ⟨tree, htree, rfl⟩ := List.mem_map.mp hk
    exact ⟨p, hp, rfl, htree⟩

theorem panel_unique (p q : Panel Double) (hp : p ∈ (build v spec).panels)
    (hq : q ∈ (build v spec).panels) (h : q.readRatio = p.readRatio) : q = p :=
  List.inj_on_of_nodup_map (build_ratios_ascending v spec).nodup hq hp h

theorem mem_legend_iff (p : Panel Double) (hp : p ∈ (build v spec).panels) (tree : String) :
    tree ∈ p.legend ↔ ∃ r ∈ v.table.rows, r.treeType = tree ∧ r.readRatio = p.readRatio ∧
      v.table.Fills spec.metric r := by
  have hkey := exists_panel_iff v spec ⟨p.readRatio, tree⟩
  constructor
  · intro htree
    obtain ⟨r, hr, hk, hfills⟩ := hkey.mp ⟨p, hp, rfl, htree⟩
    obtain ⟨hratio, rfl⟩ := SeriesKey.mk.inj hk
    exact ⟨r, hr, rfl, hratio, hfills⟩
  · rintro ⟨r, hr, rfl, hratio, hfills⟩
    obtain ⟨q, hq, hsame, htree⟩ := hkey.mpr ⟨r, hr, by rw [hratio], hfills⟩
    rwa [panel_unique v spec p q hp hq hsame] at htree

theorem panel_ratios_eq : (build v spec).panels.map (·.readRatio) =
    v.table.readRatios.filter fun ratio =>
      ∃ r ∈ v.table.rows, r.readRatio = ratio ∧ v.table.Fills spec.metric r := by
  apply (build_ratios_ascending v spec).ext (v.table.readRatios_ascending.filter _)
  intro ratio
  rw [List.mem_filter, decide_eq_true_iff, Table.mem_readRatios_iff]
  constructor
  · intro hratio
    obtain ⟨p, hp, rfl⟩ := List.mem_map.mp hratio
    obtain ⟨s, hs⟩ := List.exists_mem_of_ne_nil _
      ((build_laid v spec).filled p (List.mem_reverse.mpr hp))
    obtain ⟨r, hr, -, hrow, hfills⟩ :=
      (mem_legend_iff v spec p hp s.treeType).mp (List.mem_map_of_mem hs)
    exact ⟨⟨r, hr, hrow⟩, r, hr, hrow, hfills⟩
  · rintro ⟨-, r, hr, rfl, hfills⟩
    obtain ⟨p, hp, hratio, -⟩ :=
      (exists_panel_iff v spec ⟨r.readRatio, r.treeType⟩).mpr ⟨r, hr, rfl, hfills⟩
    exact List.mem_map.mpr ⟨p, hp, hratio⟩

theorem legend_eq (p : Panel Double) (hp : p ∈ (build v spec).panels) :
    p.legend = v.table.treeTypes.filter fun tree =>
      ∃ r ∈ v.table.rows, r.treeType = tree ∧ r.readRatio = p.readRatio ∧
        v.table.Fills spec.metric r := by
  apply (build_legend_ascending v spec p hp).ext (v.table.treeTypes_ascending.filter _)
  intro tree
  rw [mem_legend_iff v spec p hp, List.mem_filter, decide_eq_true_iff, Table.mem_treeTypes_iff]
  constructor
  · rintro ⟨r, hr, htree, hrow⟩
    exact ⟨⟨r, hr, htree⟩, r, hr, htree, hrow⟩
  · rintro ⟨-, h⟩
    exact h

theorem buildEvents_eq : buildEvents v spec =
    ((v.table.treeTypes ×ˢ (build v spec).panels).filter fun x => x.1 ∉ x.2.legend).map fun x =>
      .treeMissing spec.fileStem spec.metric x.1 x.2.readRatio := by
  have hproduct : v.table.treeTypes ×ˢ (build v spec).panels =
      v.table.treeTypes.flatMap fun tree => (build v spec).panels.map (tree, ·) := rfl
  rw [buildEvents, hproduct, List.filter_flatMap, List.map_flatMap]
  apply List.flatMap_congr
  intro tree _
  rw [List.filter_map, List.map_map, ← List.filterMap_eq_map, List.filterMap_filter]
  apply List.filterMap_congr
  intro p _
  by_cases h : tree ∈ p.legend <;> simp [h]

theorem buildEvents_nodup : (buildEvents v spec).Nodup := by
  have hpanels : (build v spec).panels.Nodup := (build_ratios_ascending v spec).nodup.of_map
  have hpairs := (v.table.treeTypes_ascending.nodup.product hpanels).filter
    fun x => x.1 ∉ x.2.legend
  rw [buildEvents_eq]
  apply hpairs.map_on
  intro x hx y hy hevent
  obtain ⟨-, -, htree, hratio⟩ := Event.treeMissing.inj hevent
  have hx := (List.mem_product.mp (List.mem_filter.mp hx).1).2
  have hy := (List.mem_product.mp (List.mem_filter.mp hy).1).2
  exact Prod.ext htree (panel_unique v spec y.2 x.2 hy hx hratio)

theorem missing_at_panel (p : Panel Double) (hp : p ∈ (build v spec).panels) :
    (buildEvents v spec).filterMap (Event.missingTree? p.readRatio) =
      v.table.treeTypes.filter fun tree => tree ∉ p.legend := by
  have htree (tree : String) : ((build v spec).panels.filterMap fun q =>
      if tree ∈ q.legend then none
      else some (Event.treeMissing spec.fileStem spec.metric tree q.readRatio)).filterMap
        (Event.missingTree? p.readRatio) =
      (if tree ∈ p.legend then none else some tree).toList := by
    rw [List.filterMap_filterMap, ← filterMap_of_nodup Panel.readRatio
      (fun q => if tree ∈ q.legend then none else some tree) (build v spec).panels
      (build_ratios_ascending v spec).nodup p hp]
    apply List.filterMap_congr
    intro q _
    by_cases h : tree ∈ q.legend <;> simp [h, Event.missingTree?]
  rw [buildEvents, List.filterMap_flatMap]
  simp only [htree]
  rw [← List.filterMap_eq_flatMap_toList, ← List.filterMap_eq_filter]
  apply List.filterMap_congr
  intro tree _
  by_cases h : tree ∈ p.legend <;> simp [h, Option.guard]

/-- The panels of a chart are the read ratios at which some row has a value, and the legend of a
panel has the trees with a value there. For each other tree and panel there is one message, tree by
tree, so that the series of a panel and its messages have each tree once. -/
theorem build_agrees_with_dimensions :
    ((build v spec).panels.map (·.readRatio) = v.table.readRatios.filter fun ratio =>
        ∃ r ∈ v.table.rows, r.readRatio = ratio ∧ v.table.Fills spec.metric r) ∧
      (∀ p ∈ (build v spec).panels, p.legend = v.table.treeTypes.filter fun tree =>
        ∃ r ∈ v.table.rows, r.treeType = tree ∧ r.readRatio = p.readRatio ∧
          v.table.Fills spec.metric r) ∧
      (buildEvents v spec = ((v.table.treeTypes ×ˢ (build v spec).panels).filter fun x =>
        x.1 ∉ x.2.legend).map fun x =>
          .treeMissing spec.fileStem spec.metric x.1 x.2.readRatio) ∧
      (buildEvents v spec).Nodup ∧ (∀ e ∈ buildEvents v spec, e.level = .debug) ∧
      v.table.treeTypes.Nodup ∧ ∀ p ∈ (build v spec).panels,
        (p.legend ++ (buildEvents v spec).filterMap (Event.missingTree? p.readRatio)).Perm
          v.table.treeTypes := by
  refine ⟨panel_ratios_eq v spec, legend_eq v spec, buildEvents_eq v spec,
    buildEvents_nodup v spec, ?_, v.table.treeTypes_ascending.nodup, ?_⟩
  · intro e he
    rw [buildEvents_eq] at he
    obtain ⟨x, -, rfl⟩ := List.mem_map.mp he
    rfl
  · intro p hp
    have hlegend : p.legend = v.table.treeTypes.filter fun tree => tree ∈ p.legend := by
      simp only [mem_legend_iff v spec p hp]
      exact legend_eq v spec p hp
    have hperm := List.filter_append_perm (fun tree => decide (tree ∈ p.legend)) v.table.treeTypes
    rw [← hlegend] at hperm
    simpa only [missing_at_panel v spec p hp, decide_not] using hperm

end Chart

end BenchReport
