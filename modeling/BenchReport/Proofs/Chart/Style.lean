import BenchReport.Proofs.Chart.Panels
import BenchReport.Proofs.Table.Reachable

namespace BenchReport

namespace SeriesStyle

theorem spareColour_eq_iff (i j : Nat) : spareColour i = spareColour j ↔ i % 6 = j % 6 := by
  have hturn : ∀ a < 6, ∀ b < 6, spareColour a = spareColour b ↔ a = b := by decide
  have hmod (n : Nat) : spareColour n = spareColour (n % 6) := by
    rw [spareColour, spareColour, Nat.mod_mod]
  rw [hmod i, hmod j]
  exact hturn _ (Nat.mod_lt i (by decide)) _ (Nat.mod_lt j (by decide))

theorem spareMarker_eq_iff (i j : Nat) : spareMarker i = spareMarker j ↔ i % 4 = j % 4 := by
  have hturn : ∀ a < 4, ∀ b < 4, spareMarker a = spareMarker b ↔ a = b := by decide
  have hmod (n : Nat) : spareMarker n = spareMarker (n % 4) := by
    rw [spareMarker, spareMarker, Nat.mod_mod]
  rw [hmod i, hmod j]
  exact hturn _ (Nat.mod_lt i (by decide)) _ (Nat.mod_lt j (by decide))

theorem ofLabel_of_other {label : String} (h : TreeVariant.ofLabel label = .other) (i : Nat) :
    ofLabel label i = ⟨spareColour i, spareMarker i, i % 2 = 1⟩ := by
  rw [ofLabel, h]

theorem ofLabel_eq_iff (label : String) (i j : Nat) :
    ofLabel label i = ofLabel label j ↔ TreeVariant.ofLabel label ≠ .other ∨ i % 12 = j % 12 := by
  by_cases h : TreeVariant.ofLabel label = .other
  · rw [ofLabel_of_other h, ofLabel_of_other h, SeriesStyle.mk.injEq, spareColour_eq_iff,
      spareMarker_eq_iff, decide_eq_decide]
    simp only [h, ne_eq, not_true_eq_false, false_or]
    omega
  · simp only [ne_eq, h, not_false_eq_true, true_or, iff_true]
    unfold ofLabel
    cases hvariant : TreeVariant.ofLabel label with
    | other => exact absurd hvariant h
    | _ => rfl

end SeriesStyle

namespace Chart

/-- A tree looks the same in two panels of a chart when it is a known one, and otherwise exactly
when its places in the two legends are a multiple of twelve apart. -/
theorem style_eq_across_panels_iff (v : View) (spec : ChartSpec) (p q : Panel Double)
    (hp : p ∈ (build v spec).panels) (hq : q ∈ (build v spec).panels) (i j : Nat)
    (s s' : PanelSeries Double) (hs : p.series[i]? = some s) (hs' : q.series[j]? = some s')
    (htree : s'.treeType = s.treeType) :
    s'.style = s.style ↔ TreeVariant.ofLabel s.treeType ≠ .other ∨ i % 12 = j % 12 := by
  have hstyled := (build_laid v spec).styled
  rw [hstyled p (List.mem_reverse.mpr hp) i s hs, hstyled q (List.mem_reverse.mpr hq) j s' hs',
    htree, SeriesStyle.ofLabel_eq_iff, eq_comm (a := i % 12)]

def unevenFile : Bytes := Text.toBytes
  ("TreeType,Sortedness,ReadRatio,InsertTime\nA,0.5,0.1,1\nB,0.5,0.1,2\nLasTree,0.5,0.1,3\n" ++
    "B,0.5,0.9,4\nLasTree,0.5,0.9,5\n")

def uneven : Table :=
  ⟨"uneven.csv", [Column.insertTime], [⟨"A", 0.5, 0.1, [some 1]⟩, ⟨"B", 0.5, 0.1, [some 2]⟩,
    ⟨"LasTree", 0.5, 0.1, [some 3]⟩, ⟨"B", 0.5, 0.9, [some 4]⟩, ⟨"LasTree", 0.5, 0.9, [some 5]⟩]⟩

def insertBars : ChartSpec := ⟨Column.insertTime, "insert", "Insert", "Insert Time", .bar, none⟩

def oneBar (tree : String) (place : Nat) (value : Double) : PanelSeries Double :=
  ⟨tree, .ofLabel tree place, [⟨50, value, 1⟩]⟩

def fewReads : Panel Double := ⟨0.1, [50], [oneBar "A" 0 1, oneBar "B" 1 2, oneBar "LasTree" 2 3]⟩

def manyReads : Panel Double := ⟨0.9, [50], [oneBar "B" 0 4, oneBar "LasTree" 1 5]⟩

theorem uneven_styles :
    (build (View.derive uneven {}) insertBars).panels = [fewReads, manyReads] ∧
      ((oneBar "B" 0 4).style = (oneBar "B" 1 2).style ↔
        TreeVariant.ofLabel "B" ≠ .other ∨ 1 % 12 = 0 % 12) ∧
      ((oneBar "LasTree" 1 5).style = (oneBar "LasTree" 2 3).style ↔
        TreeVariant.ofLabel "LasTree" ≠ .other ∨ 2 % 12 = 1 % 12) := by
  have hpanels : (build (View.derive uneven {}) insertBars).panels = [fewReads, manyReads] := by
    decide +kernel
  have hacross := style_eq_across_panels_iff (View.derive uneven {}) insertBars fewReads manyReads
    (by simp [hpanels]) (by simp [hpanels])
  refine ⟨hpanels, ?_, ?_⟩
  · exact hacross 1 0 (oneBar "B" 1 2) (oneBar "B" 0 4) rfl rfl rfl
  · exact hacross 2 1 (oneBar "LasTree" 2 3) (oneBar "LasTree" 1 5) rfl rfl rfl

theorem uneven_changes_style :
    ¬ ∀ (path : Path) (file : Bytes) (t : Table) (o : DeriveOptions) (spec : ChartSpec),
      Table.load path file = .ok t → ∀ p ∈ (build (View.derive t o) spec).panels,
        ∀ q ∈ (build (View.derive t o) spec).panels, ∀ s ∈ p.series, ∀ s' ∈ q.series,
          s'.treeType = s.treeType → s'.style = s.style := by
  intro h
  have hload : Table.load "uneven.csv" unevenFile = .ok uneven := by decide +kernel
  have hchanges : ¬ ∀ p ∈ (build (View.derive uneven {}) insertBars).panels,
      ∀ q ∈ (build (View.derive uneven {}) insertBars).panels, ∀ s ∈ p.series, ∀ s' ∈ q.series,
        s'.treeType = s.treeType → s'.style = s.style := by decide +kernel
  exact hchanges (h "uneven.csv" unevenFile uneven {} insertBars hload)

end Chart

end BenchReport
