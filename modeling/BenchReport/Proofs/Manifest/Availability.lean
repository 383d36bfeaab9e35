import BenchReport.Proofs.Manifest
import BenchReport.Proofs.Run.Preparation
import BenchReport.Proofs.View.Columns

namespace BenchReport

namespace Table

def TreeHasValue (t : Table) (tree name : String) : Prop :=
  ∃ i ∈ t.columnIndex? name, ∃ r ∈ t.rows, r.treeType = tree ∧ (r.value i).isSome

def Available (t : Table) (o : DeriveOptions) (name : String) : Prop :=
  name ∈ t.columns ∨ name = Column.sortednessPercent ∨
    name = Column.fastPathHitRate ∧ Column.fastPathHits ∈ t.columns ∧ o.trialCount.isSome ∨
    ∃ pair ∈ Column.speedups, pair.2 = name ∧ t.TreeHasValue o.baseline pair.1

instance (t : Table) (tree name : String) : Decidable (t.TreeHasValue tree name) :=
  inferInstanceAs (Decidable (∃ i ∈ t.columnIndex? name, ∃ r ∈ t.rows,
    r.treeType = tree ∧ (r.value i).isSome))

instance (t : Table) (o : DeriveOptions) (name : String) : Decidable (t.Available o name) :=
  inferInstanceAs (Decidable (_ ∨ _ ∨ _ ∧ _ ∧ _ ∨ ∃ pair ∈ Column.speedups, pair.2 = name ∧
    t.TreeHasValue o.baseline pair.1))

theorem hasColumn_iff_mem (t : Table) (name : String) : t.hasColumn name ↔ name ∈ t.columns := by
  rw [hasColumn_eq_isSome, ← Option.ne_none_iff_isSome, Ne, columnValues?_eq_none_iff, not_not]

theorem treeHasValue_iff (t : Table) (tree name : String) :
    t.TreeHasValue tree name ↔ ∃ r ∈ t.rows, r.treeType = tree ∧ (t.cell? name r).isSome := by
  unfold TreeHasValue cell?
  cases t.columnIndex? name <;> simp

theorem mem_derivedNames_iff (t : Table) (o : DeriveOptions) (name : String) :
    name ∈ t.derivedNames o ↔ name = Column.sortednessPercent ∨
      name = Column.fastPathHitRate ∧ Column.fastPathHits ∈ t.columns ∧ o.trialCount.isSome ∨
      ∃ pair ∈ Column.speedups, pair.2 = name ∧ t.TreeHasValue o.baseline pair.1 := by
  have hrate : (name ∈ if t.hasColumn Column.fastPathHits ∧ o.trialCount.isSome then
      [Column.fastPathHitRate] else []) ↔
      name = Column.fastPathHitRate ∧ Column.fastPathHits ∈ t.columns ∧ o.trialCount.isSome := by
    rw [← hasColumn_iff_mem]
    split_ifs with h <;> simp [h]
  rw [derivedNames, List.cons_append, List.mem_cons, List.mem_append, hrate]
  simp only [List.mem_map, List.mem_filter, decide_eq_true_eq, ← treeHasValue_iff]
  apply or_congr_right (or_congr_right (exists_congr _))
  intro pair
  exact and_right_comm.trans and_assoc

end Table

namespace View

theorem derive_hasColumn_iff (t : Table) (o : DeriveOptions) (name : String) :
    (derive t o).table.hasColumn name ↔ t.Available o name := by
  rw [Table.hasColumn_iff_mem, derive_columns, List.mem_append, Table.mem_derivedNames_iff,
    Table.Available]

end View

namespace Manifest

open Table

theorem plan_eq_ok_iff (m : Manifest) (v : View) (entries : List ManifestEntry) :
    m.plan v = .ok entries ↔ (∀ e ∈ m, Run.Supplies v e) ∧
      entries = m.filter fun e => (skip? v.table e).isNone := by
  have hnone : m.firstMissing? v.table = none ↔ ∀ e ∈ m, Run.Supplies v e := by
    simp [firstMissing?, Run.Supplies]
  rw [← hnone, plan]
  cases m.firstMissing? v.table <;> simp [eq_comm]

theorem skip?_isNone_iff (t : Table) (o : DeriveOptions) (e : ManifestEntry) :
    (skip? (View.derive t o).table e).isNone ↔
      t.Available o e.metric ∧ ∀ other ∈ e.supersededBy, ¬ t.Available o other := by
  simp only [Option.isNone_iff_eq_none, skip?_eq_none_iff, View.derive_hasColumn_iff,
    Option.mem_def]

/-- A plan fails for the first required entry whose column is not available, superseded or not.
When there is none it has, in the order of the manifest, the entries whose column is available and
whose superseding column is not. -/
theorem plan_by_availability (m : Manifest) (t : Table) (o : DeriveOptions) :
    ((∃ f, m.plan (View.derive t o) = .error f) ↔
        ∃ e ∈ m, e.required ∧ ¬ t.Available o e.metric) ∧
      (∀ f, m.plan (View.derive t o) = .error f ↔ ∃ before e after, m = before ++ e :: after ∧
        (∀ e' ∈ before, e'.required → t.Available o e'.metric) ∧
        (e.required ∧ ¬ t.Available o e.metric) ∧ f = .missingColumn e.metric t.source) ∧
      ∀ entries, m.plan (View.derive t o) = .ok entries ↔
        (∀ e ∈ m, e.required → t.Available o e.metric) ∧
          entries = m.filter fun e => t.Available o e.metric ∧
            ∀ other ∈ e.supersededBy, ¬ t.Available o other := by
  have hsupplies (e : ManifestEntry) :
      Run.Supplies (View.derive t o) e ↔ (e.required → t.Available o e.metric) := by
    rw [Run.Supplies, View.derive_hasColumn_iff]
  have hlacks (e : ManifestEntry) :
      ¬ Run.Supplies (View.derive t o) e ↔ e.required ∧ ¬ t.Available o e.metric := by
    rw [hsupplies, Classical.not_imp]
  have hkept : (m.filter fun e => (skip? (View.derive t o).table e).isNone) =
      m.filter fun e => t.Available o e.metric ∧
        ∀ other ∈ e.supersededBy, ¬ t.Available o other := by
    apply List.filter_congr
    intro e _
    rw [Bool.eq_iff_iff, skip?_isNone_iff, decide_eq_true_iff]
  have hsource : (View.derive t o).table.source = t.source := by rw [View.derive_table]
  refine ⟨?_, ?_, ?_⟩
  · constructor
    · rintro ⟨f, hf⟩
      obtain ⟨before, e, after, rfl, -, he, -⟩ := (Run.plan_eq_error_iff m _ f).mp hf
      exact ⟨e, List.mem_append_right _ List.mem_cons_self, (hlacks e).mp he⟩
    · rintro ⟨e, he, hlack⟩
      cases hplan : m.plan (View.derive t o) with
      | error f => exact ⟨f, rfl⟩
      | ok entries =>
        obtain ⟨hall, -⟩ := (plan_eq_ok_iff m _ entries).mp hplan
        exact absurd (hall e he) ((hlacks e).mpr hlack)
  · intro f
    simp only [Run.plan_eq_error_iff, hsupplies, Classical.not_imp, hsource]
  · intro entries
    simp only [plan_eq_ok_iff, hsupplies, hkept]

end Manifest

end BenchReport
