import BenchReport.Manifest
import BenchReport.Proofs.Chart.Panels
import BenchReport.Proofs.View.Lookup

namespace BenchReport

namespace View

theorem mem_derivedColumns_hitRate_iff (t : Table) (o : DeriveOptions)
    (cells : List (Option Double)) :
    (Column.fastPathHitRate, cells) ∈ derivedColumns t o ↔
      hitRateCells? t o.trialCount = some cells := by
  have hpercent : Column.fastPathHitRate ≠ Column.sortednessPercent := by decide
  have hspeedups : ∀ pair ∈ Column.speedups, pair.2 ≠ Column.fastPathHitRate := by decide
  simp only [derivedColumns_eq_append, List.cons_append, List.mem_cons, List.mem_append, List.mem_map,
    List.mem_filterMap, Prod.mk.injEq, hpercent, false_and, false_or, Option.mem_toList,
    Option.map_eq_some_iff]
  constructor
  · rintro (⟨cells', h, -, rfl⟩ | ⟨pair, hpair, cells', -, hname, -⟩)
    · exact h
    · exact absurd hname (hspeedups pair hpair)
  · intro h
    exact .inl ⟨cells, h, trivial, rfl⟩

theorem hitRate_hasValue (t : Table) (o : DeriveOptions) (h : t.Rectangular)
    (hhits : t.HasValue Column.fastPathHits)
    (hown : Column.fastPathHitRate ∈ t.columns → t.HasValue Column.fastPathHitRate)
    (hrate : (derive t o).table.hasColumn Column.fastPathHitRate) :
    (derive t o).table.HasValue Column.fastPathHitRate := by
  by_cases hmem : Column.fastPathHitRate ∈ t.columns
  · exact derive_hasValue t o h _ (hown hmem)
  · have hfound : (derive t o).table.columnValues? Column.fastPathHitRate =
        (derivedColumns t o).lookup Column.fastPathHitRate := by
      rw [derive_columnValues? t o h, (t.columnValues?_eq_none_iff _).mpr hmem, Option.none_or]
    rw [Table.hasColumn_eq_isSome, hfound] at hrate
    obtain ⟨cells, hcells⟩ := Option.isSome_iff_exists.mp hrate
    have hderived := (mem_derivedColumns_hitRate_iff t o cells).mp (mem_of_lookup hcells)
    obtain ⟨hits, hhits, hit, hhit⟩ := hhits
    rw [hitRateCells?_eq_match] at hderived
    rw [hhits] at hderived
    cases htrials : o.trialCount with
    | none => simp [htrials] at hderived
    | some n =>
      simp only [htrials, Option.some.injEq] at hderived
      refine ⟨cells, hfound.trans hcells, ?_⟩
      rw [← hderived]
      exact ⟨_, List.mem_map.mpr ⟨some hit, hhit, rfl⟩⟩

end View

namespace Chart

theorem build_isEmpty_iff (v : View) (spec : ChartSpec) :
    (build v spec).isEmpty ↔ ¬ v.table.HasValue spec.metric := by
  have hlaid := foldl_place_laid (v.series spec.metric) (Sample.series_ascending _)
  have hpanels : (build v spec).isEmpty ↔ v.series spec.metric = [] := by
    simp only [isEmpty, build, panelsOf, List.isEmpty_iff, List.map_eq_nil_iff,
      List.reverse_eq_nil_iff]
    constructor
    · intro hnil
      rw [← hlaid.entries, hnil]
      rfl
    · intro hnil
      rw [hnil]
      rfl
  rw [hpanels, ← View.samples_eq_nil_iff, View.series_eq_samples]
  constructor
  · intro hseries
    apply List.eq_nil_iff_forall_not_mem.mpr
    intro s hs
    have hkey : s.key ∈ (Sample.series (v.samples spec.metric)).map (·.1) := by
      rw [Sample.series_keys, Ordered.mem_distinct]
      exact List.mem_map_of_mem hs
    rw [hseries] at hkey
    cases hkey
  · intro hsamples
    rw [hsamples]
    rfl

end Chart

namespace Manifest

theorem skip?_eq_none_iff (t : Table) (e : ManifestEntry) :
    skip? t e = none ↔ t.hasColumn e.metric ∧
      ∀ other, e.supersededBy = some other → ¬ t.hasColumn other := by
  unfold skip?
  cases e.supersededBy with
  | none => cases t.hasColumn e.metric <;> simp
  | some other => cases t.hasColumn e.metric <;> cases t.hasColumn other <;> simp_all

theorem mem_plan_iff (m : Manifest) (v : View) (entries : List ManifestEntry)
    (h : m.plan v = .ok entries) (e : ManifestEntry) :
    e ∈ entries ↔ e ∈ m ∧ v.table.hasColumn e.metric ∧
      ∀ other, e.supersededBy = some other → ¬ v.table.hasColumn other := by
  rw [← skip?_eq_none_iff]
  unfold plan at h
  split at h
  · cases h
  · cases h
    rw [List.mem_filter, Option.isNone_iff_eq_none]

theorem plan_eq_of_hasColumn (m : Manifest) (v v' : View)
    (hsource : v'.table.source = v.table.source)
    (hhas : ∀ name, v'.table.hasColumn name = v.table.hasColumn name) : m.plan v' = m.plan v := by
  have hskip (e : ManifestEntry) : skip? v'.table e = skip? v.table e := by
    simp only [skip?, hhas]
  simp only [plan, firstMissing?, hhas, hskip, hsource]

theorem standard_hitRate : ∃ e ∈ standard, e.spec.fileStem = "fast_path_hit_rate" ∧
    e.metric = Column.fastPathHitRate ∧ e.supersededBy = none := by decide

theorem standard_hits : ∃ e ∈ standard, e.spec.fileStem = "fast_path_hits" ∧
    e.metric = Column.fastPathHits ∧ e.supersededBy = some Column.fastPathHitRate := by decide

/-- Hits are shown by one of their two charts, in a file that has no rates of its own or has values
for them: the hits give way to a rate that is planned, and a derived rate has a value for each. -/
theorem standard_shows_hits (path : Path) (file : Bytes) (t : Table) (o : DeriveOptions)
    (entries : List ManifestEntry) (hload : Table.load path file = .ok t)
    (hhits : t.HasValue Column.fastPathHits)
    (hown : Column.fastPathHitRate ∈ t.columns → t.HasValue Column.fastPathHitRate)
    (hplan : standard.plan (View.derive t o) = .ok entries) :
    ∃ e ∈ entries,
      (e.spec.fileStem = "fast_path_hit_rate" ∨ e.spec.fileStem = "fast_path_hits") ∧
        ¬ (Chart.build (View.derive t o) e.spec).isEmpty := by
  have hrows := Table.load_rectangular path file t hload
  simp only [mem_plan_iff standard _ entries hplan, Chart.build_isEmpty_iff, not_not]
  by_cases hrate : (View.derive t o).table.hasColumn Column.fastPathHitRate
  · obtain ⟨e, he, hstem, hmetric, hsuperseded⟩ := standard_hitRate
    refine ⟨e, ⟨he, ?_, ?_⟩, .inl hstem, ?_⟩
    · rwa [hmetric]
    · simp [hsuperseded]
    · rw [← ManifestEntry.metric, hmetric]
      exact View.hitRate_hasValue t o hrows hhits hown hrate
  · obtain ⟨e, he, hstem, hmetric, hsuperseded⟩ := standard_hits
    have hshown := View.derive_hasValue t o hrows _ hhits
    refine ⟨e, ⟨he, ?_, ?_⟩, .inr hstem, ?_⟩
    · obtain ⟨cells, hcells, -⟩ := hshown
      rw [hmetric, Table.hasColumn_eq_isSome, hcells]
      rfl
    · rintro other hother
      rw [hsuperseded] at hother
      cases hother
      exact hrate
    · rw [← ManifestEntry.metric, hmetric]
      exact hshown

def hitsOnlyFile : Bytes :=
  Text.toBytes "TreeType,Sortedness,ReadRatio,InsertTime,FastPathHits\nA,0.5,0.5,1,10\n"

def hitsOnly : Table :=
  ⟨"hits.csv", [Column.insertTime, Column.fastPathHits], [⟨"A", 0.5, 0.5, [some 1, some 10]⟩]⟩

theorem hitsOnly_shown :
    Table.load "hits.csv" hitsOnlyFile = .ok hitsOnly ∧ hitsOnly.HasValue Column.fastPathHits ∧
      Column.fastPathHitRate ∉ hitsOnly.columns ∧
      ∃ entries, standard.plan (View.derive hitsOnly ⟨some 20, "A"⟩) = .ok entries ∧
        ∃ e ∈ entries,
          (e.spec.fileStem = "fast_path_hit_rate" ∨ e.spec.fileStem = "fast_path_hits") ∧
            ¬ (Chart.build (View.derive hitsOnly ⟨some 20, "A"⟩) e.spec).isEmpty := by
  have hload : Table.load "hits.csv" hitsOnlyFile = .ok hitsOnly := by decide +kernel
  have hvalue : hitsOnly.HasValue Column.fastPathHits :=
    ⟨[some 10], by decide +kernel, 10, List.mem_cons_self⟩
  have hrates : Column.fastPathHitRate ∉ hitsOnly.columns := by decide
  have hplan : standard.plan (View.derive hitsOnly ⟨some 20, "A"⟩) = .ok (standard.filter
      fun e => (skip? (View.derive hitsOnly ⟨some 20, "A"⟩).table e).isNone) := by
    decide +kernel
  refine ⟨hload, hvalue, hrates, _, hplan, ?_⟩
  exact standard_shows_hits "hits.csv" hitsOnlyFile hitsOnly ⟨some 20, "A"⟩ _ hload hvalue
    (fun hown => absurd hown hrates) hplan

theorem empty_rates_hide_hits :
    ¬ ∀ (path : Path) (file : Bytes) (t : Table) (o : DeriveOptions)
      (entries : List ManifestEntry), Table.load path file = .ok t → o.trialCount ≠ some 0 →
      t.HasValue Column.fastPathHits → standard.plan (View.derive t o) = .ok entries →
      ∃ e ∈ entries,
        (e.spec.fileStem = "fast_path_hit_rate" ∨ e.spec.fileStem = "fast_path_hits") ∧
          ¬ (Chart.build (View.derive t o) e.spec).isEmpty := by
  intro h
  let file := Text.toBytes
    "TreeType,Sortedness,ReadRatio,InsertTime,FastPathHits,FastPathHitRate\nA,0.5,0.5,1,10,\n"
  let t : Table := ⟨"rates.csv", [Column.insertTime, Column.fastPathHits, Column.fastPathHitRate],
    [⟨"A", 0.5, 0.5, [some 1, some 10, none]⟩]⟩
  let entries := standard.filter fun e => (skip? (View.derive t {}).table e).isNone
  have hload : Table.load "rates.csv" file = .ok t := by decide +kernel
  have hvalue : t.HasValue Column.fastPathHits :=
    ⟨[some 10], by decide +kernel, 10, List.mem_cons_self⟩
  have hplan : standard.plan (View.derive t {}) = .ok entries := by decide +kernel
  have hnone : ¬ ∃ e ∈ entries,
      (e.spec.fileStem = "fast_path_hit_rate" ∨ e.spec.fileStem = "fast_path_hits") ∧
        ¬ (Chart.build (View.derive t {}) e.spec).isEmpty := by decide +kernel
  exact hnone (h "rates.csv" file t {} entries hload (by decide) hvalue hplan)

end Manifest

end BenchReport
