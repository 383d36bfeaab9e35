import BenchReport.Chart.Drawing
import BenchReport.Proofs.Chart.Dimensions
import BenchReport.Proofs.Chart.Style

namespace BenchReport

namespace TreeVariant

def knownLabels : List String := ["SimpleBTree", "OptimizedBTree", "LoggedBTree", "LasTree"]

theorem mem_knownLabels_iff (label : String) : label ∈ knownLabels ↔ ofLabel label ≠ .other := by
  unfold ofLabel knownLabels
  split_ifs <;> simp_all

end TreeVariant

namespace SeriesStyle

open TreeVariant

theorem ofLabel_of_known {label : String} (h : label ∈ knownLabels) (i : Nat) :
    ofLabel label i = ofLabel label 0 :=
  (ofLabel_eq_iff label i 0).mpr (.inl ((mem_knownLabels_iff label).mp h))

theorem colour_ne_spareColour {label : String} (h : label ∈ knownLabels) (i j : Nat) :
    (ofLabel label i).colour ≠ spareColour j := by
  have hturn : ∀ l ∈ knownLabels, ∀ k < 6, (ofLabel l 0).colour ≠ spareColour k := by decide
  have hspare : spareColour j = spareColour (j % 6) :=
    (spareColour_eq_iff j (j % 6)).mpr (Nat.mod_mod j 6).symm
  rw [ofLabel_of_known h, hspare]
  exact hturn label h (j % 6) (Nat.mod_lt j (by decide))

theorem eq_of_colour_eq {a b : String} (ha : a ∈ knownLabels) (hb : b ∈ knownLabels) (i j : Nat)
    (h : (ofLabel a i).colour = (ofLabel b j).colour) : a = b := by
  have hdistinct : ∀ l ∈ knownLabels, ∀ m ∈ knownLabels,
      (ofLabel l 0).colour = (ofLabel m 0).colour → l = m := by decide
  rw [ofLabel_of_known ha, ofLabel_of_known hb] at h
  exact hdistinct a ha b hb h

theorem colour_eq_iff_of_ne {a b : String} (hne : a ≠ b) (i j : Nat) :
    (ofLabel a i).colour = (ofLabel b j).colour ↔
      (TreeVariant.ofLabel a = .other ∧ TreeVariant.ofLabel b = .other) ∧ i % 6 = j % 6 := by
  by_cases ha : TreeVariant.ofLabel a = .other
  · by_cases hb : TreeVariant.ofLabel b = .other
    · rw [ofLabel_of_other ha, ofLabel_of_other hb, spareColour_eq_iff]
      simp only [ha, hb, true_and]
    · have hdiffer := colour_ne_spareColour ((mem_knownLabels_iff b).mpr hb) j i
      rw [ofLabel_of_other ha]
      simp only [hb, and_false, false_and, iff_false]
      exact hdiffer.symm
  · have hknown := (mem_knownLabels_iff a).mpr ha
    simp only [ha, false_and, iff_false]
    intro hcolour
    by_cases hb : TreeVariant.ofLabel b = .other
    · rw [ofLabel_of_other hb] at hcolour
      exact colour_ne_spareColour hknown i j hcolour
    · exact hne (eq_of_colour_eq hknown ((mem_knownLabels_iff b).mpr hb) i j hcolour)

theorem look_eq_iff_of_ne {a b : String} (hne : a ≠ b) (i j : Nat) :
    (ofLabel a i).colour = (ofLabel b j).colour ∧ (ofLabel a i).marker = (ofLabel b j).marker ↔
      (TreeVariant.ofLabel a = .other ∧ TreeVariant.ofLabel b = .other) ∧ i % 12 = j % 12 := by
  rw [colour_eq_iff_of_ne hne, and_assoc]
  apply and_congr_right
  rintro ⟨ha, hb⟩
  rw [ofLabel_of_other ha, ofLabel_of_other hb, spareMarker_eq_iff]
  omega

theorem barLook_eq_iff_of_ne {a b : String} (hne : a ≠ b) (i j : Nat) :
    (ofLabel a i).colour = (ofLabel b j).colour ∧ (ofLabel a i).hollow = (ofLabel b j).hollow ↔
      (TreeVariant.ofLabel a = .other ∧ TreeVariant.ofLabel b = .other) ∧ i % 6 = j % 6 := by
  rw [colour_eq_iff_of_ne hne, and_assoc]
  apply and_congr_right
  rintro ⟨ha, hb⟩
  rw [ofLabel_of_other ha, ofLabel_of_other hb, decide_eq_decide]
  omega

end SeriesStyle

theorem Drawing.swatch_eq_iff {spec : ChartSpec} (h : spec.kind = .bar) (s s' : SeriesStyle) :
    swatch spec s = swatch spec s' ↔ s.colour = s'.colour ∧ s.hollow = s'.hollow := by
  rw [swatch, swatch, if_pos h, if_pos h, Swatch.bar.injEq, Bool.not_inj_iff]

def PanelSeries.Unknown (s : PanelSeries Double) : Prop := TreeVariant.ofLabel s.treeType = .other

instance (s : PanelSeries Double) : Decidable s.Unknown :=
  inferInstanceAs (Decidable (TreeVariant.ofLabel s.treeType = .other))

namespace Chart

theorem treeType_ne_of_place_ne (v : View) (spec : ChartSpec) (p : Panel Double)
    (hp : p ∈ (build v spec).panels) (i j : Nat) (s s' : PanelSeries Double)
    (hs : p.series[i]? = some s) (hs' : p.series[j]? = some s') (hij : i ≠ j) :
    s.treeType ≠ s'.treeType := by
  have hnodup : p.legend.Nodup := (build_legend_ascending v spec p hp).nodup
  have hlabel (k : Nat) (q : PanelSeries Double) (hq : p.series[k]? = some q) :
      p.legend[k]? = some q.treeType := by
    rw [Panel.legend, List.getElem?_map, hq, Option.map_some]
  have hi := hlabel i s hs
  have hj := hlabel j s' hs'
  intro htree
  rw [htree, ← hj] at hi
  have hlt := (List.getElem?_eq_some_iff.mp (hi.trans hj)).1
  exact hij ((List.getElem?_inj hlt hnodup).mp hi)

/-- Two series of a panel look alike when both trees are unknown and their places are a multiple of
twelve apart in a chart of lines, of six in a chart of bars. -/
theorem series_alike_iff (v : View) (spec : ChartSpec) (p : Panel Double)
    (hp : p ∈ (build v spec).panels) (i j : Nat) (s s' : PanelSeries Double)
    (hs : p.series[i]? = some s) (hs' : p.series[j]? = some s') (hij : i ≠ j) :
    (s.style.colour = s'.style.colour ∧ s.style.marker = s'.style.marker ↔
        (s.Unknown ∧ s'.Unknown) ∧ i % 12 = j % 12) ∧
      (s.style.colour = s'.style.colour ∧ s.style.hollow = s'.style.hollow ↔
        (s.Unknown ∧ s'.Unknown) ∧ i % 6 = j % 6) ∧
      (spec.kind = .bar → (Drawing.swatch spec s.style = Drawing.swatch spec s'.style ↔
        (s.Unknown ∧ s'.Unknown) ∧ i % 6 = j % 6)) := by
  have hne := treeType_ne_of_place_ne v spec p hp i j s s' hs hs' hij
  have hstyled := (build_laid v spec).styled p (List.mem_reverse.mpr hp)
  have hbars := SeriesStyle.barLook_eq_iff_of_ne hne i j
  have hlook := SeriesStyle.look_eq_iff_of_ne hne i j
  rw [← hstyled i s hs, ← hstyled j s' hs'] at hbars hlook
  refine ⟨hlook, hbars, ?_⟩
  intro hkind
  exact (Drawing.swatch_eq_iff hkind _ _).trans hbars

def crowdedLabels : List String :=
  ["A", "B", "C", "D", "E", "F", "G", "H", "I", "J", "K", "L", "LasTree", "M"]

def crowded : Table :=
  ⟨"crowded.csv", [Column.insertTime], crowdedLabels.map fun l => ⟨l, 0.5, 0.5, [some 1]⟩⟩

def crowdedPanel : Panel Double := ⟨0.5, [50], crowdedLabels.mapIdx fun i l => oneBar l i 1⟩

theorem crowded_alike :
    (build (View.derive crowded {}) insertBars).panels = [crowdedPanel] ∧
      ((oneBar "B" 1 1).style.colour = (oneBar "M" 13 1).style.colour ∧
        (oneBar "B" 1 1).style.marker = (oneBar "M" 13 1).style.marker) ∧
      Drawing.swatch insertBars (oneBar "A" 0 1).style =
        Drawing.swatch insertBars (oneBar "G" 6 1).style ∧
      ¬ ((oneBar "A" 0 1).style.colour = (oneBar "G" 6 1).style.colour ∧
        (oneBar "A" 0 1).style.marker = (oneBar "G" 6 1).style.marker) ∧
      ¬ ((oneBar "A" 0 1).style.colour = (oneBar "LasTree" 12 1).style.colour ∧
        (oneBar "A" 0 1).style.hollow = (oneBar "LasTree" 12 1).style.hollow) := by
  have hpanels : (build (View.derive crowded {}) insertBars).panels = [crowdedPanel] := by
    decide +kernel
  have halike := series_alike_iff (View.derive crowded {}) insertBars crowdedPanel
    (by simp [hpanels])
  have hnear := halike 0 6 (oneBar "A" 0 1) (oneBar "G" 6 1) rfl rfl (by decide)
  have hfar := halike 1 13 (oneBar "B" 1 1) (oneBar "M" 13 1) rfl rfl (by decide)
  have hknown := halike 0 12 (oneBar "A" 0 1) (oneBar "LasTree" 12 1) rfl rfl (by decide)
  refine ⟨hpanels, hfar.1.mpr (by decide), (hnear.2.2 rfl).mpr (by decide), ?_, ?_⟩
  · rw [hnear.1]
    decide
  · rw [hknown.2.1]
    decide

end Chart

end BenchReport
