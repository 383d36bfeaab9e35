import BenchReport.Proofs.Manifest.Availability

namespace BenchReport.Manifest

def ReplacesSuperseded (m : Manifest) (v : View) : Prop :=
  ∀ entries, m.plan v = .ok entries → ∀ e ∈ m, ∀ other ∈ e.supersededBy,
    v.table.hasColumn e.metric → e ∉ entries → ∃ e' ∈ entries, e' ≠ e ∧ e'.metric = other

/-- Each superseding column has an entry that gives way to nothing. -/
def Grounded (m : Manifest) : Prop :=
  ∀ e ∈ m, ∀ other ∈ e.supersededBy, ∃ e' ∈ m, e'.metric = other ∧ e'.supersededBy = none

instance (m : Manifest) : Decidable m.Grounded :=
  inferInstanceAs (Decidable (∀ e ∈ m, ∀ other ∈ e.supersededBy,
    ∃ e' ∈ m, e'.metric = other ∧ e'.supersededBy = none))

section Planned

variable {m : Manifest} {v : View} {entries : List ManifestEntry}
  (hplan : m.plan v = .ok entries) {e : ManifestEntry} {other : String}
include hplan

theorem left_out_iff (he : e ∈ m) (hother : other ∈ e.supersededBy)
    (hown : v.table.hasColumn e.metric) : e ∉ entries ↔ v.table.hasColumn other := by
  have hsuperseded : e.supersededBy = some other := hother
  rw [mem_plan_iff m v entries hplan]
  simp [he, hown, hsuperseded]

theorem replaced_iff (hleft : e ∉ entries) (hcolumn : v.table.hasColumn other) :
    (∃ e' ∈ entries, e' ≠ e ∧ e'.metric = other) ↔
      ∃ e' ∈ m, e'.metric = other ∧ ∀ above ∈ e'.supersededBy, ¬ v.table.hasColumn above := by
  constructor
  · rintro ⟨e', he', -, hmetric⟩
    obtain ⟨hm, -, hstands⟩ := (mem_plan_iff m v entries hplan e').mp he'
    exact ⟨e', hm, hmetric, hstands⟩
  · rintro ⟨e', hm, hmetric, hstands⟩
    have hown : v.table.hasColumn e'.metric := by rwa [hmetric]
    have he' : e' ∈ entries := (mem_plan_iff m v entries hplan e').mpr ⟨hm, hown, hstands⟩
    exact ⟨e', he', ne_of_mem_of_not_mem he' hleft, hmetric⟩

end Planned

theorem replacesSuperseded_of_grounded (m : Manifest) (hgrounded : m.Grounded) (v : View) :
    m.ReplacesSuperseded v := by
  intro entries hplan e he other hother hown hleft
  have hcolumn := (left_out_iff hplan he hother hown).mp hleft
  obtain ⟨e', he', hmetric, hnone⟩ := hgrounded e he other hother
  apply (replaced_iff hplan hleft hcolumn).mpr
  exact ⟨e', he', hmetric, by simp [hnone]⟩

theorem standard_replacesSuperseded (v : View) : standard.ReplacesSuperseded v :=
  replacesSuperseded_of_grounded standard (by decide) v

def allColumns (m : Manifest) : Table :=
  .empty "" (m.map (·.metric) ++ m.filterMap (·.supersededBy))

theorem allColumns_hasColumn (m : Manifest) (o : DeriveOptions) (e : ManifestEntry) (he : e ∈ m)
    (name : String) (hname : name = e.metric ∨ name ∈ e.supersededBy) :
    (View.derive m.allColumns o).table.hasColumn name := by
  rw [Table.hasColumn_iff_mem, View.derive_columns]
  apply List.mem_append_left
  rcases hname with rfl | hother
  · exact List.mem_append_left _ (List.mem_map_of_mem he)
  · exact List.mem_append_right _ (List.mem_filterMap.mpr ⟨e, he, hother⟩)

theorem grounded_of_replacesSuperseded (m : Manifest) (o : DeriveOptions)
    (h : m.ReplacesSuperseded (View.derive m.allColumns o)) : m.Grounded := by
  intro e he other hother
  have hplan := (plan_eq_ok_iff m (View.derive m.allColumns o) _).mpr
    ⟨fun e he _ => allColumns_hasColumn m o e he _ (.inl rfl), rfl⟩
  have hown := allColumns_hasColumn m o e he _ (.inl rfl)
  have hcolumn := allColumns_hasColumn m o e he other (.inr hother)
  have hleft := (left_out_iff hplan he hother hown).mpr hcolumn
  obtain ⟨e', hm, hmetric, hstands⟩ :=
    (replaced_iff hplan hleft hcolumn).mp (h _ hplan e he other hother hown hleft)
  refine ⟨e', hm, hmetric, Option.eq_none_iff_forall_not_mem.mpr ?_⟩
  -- A column above would be there as well.
  intro above habove
  exact hstands above habove (allColumns_hasColumn m o e' hm above (.inr habove))

/-- An entry that has its column is left out when the superseding column is there, and another one
is then drawn for that column exactly when one of its entries is not superseded in turn. Manifests
for which this never fails are those that ground each supersession in an entry that always
stands. -/
theorem supersession_by_column (m : Manifest) :
    (∀ v entries, m.plan v = .ok entries → ∀ e ∈ m, ∀ other ∈ e.supersededBy,
      v.table.hasColumn e.metric →
        (e ∉ entries ↔ v.table.hasColumn other) ∧
        (e ∉ entries → ((∃ e' ∈ entries, e' ≠ e ∧ e'.metric = other) ↔
          ∃ e' ∈ m, e'.metric = other ∧
            ∀ above ∈ e'.supersededBy, ¬ v.table.hasColumn above))) ∧
      ((∀ t : Table, t.Reachable → ∀ o, m.ReplacesSuperseded (View.derive t o)) ↔
        m.Grounded) := by
  constructor
  · intro v entries hplan e he other hother hown
    have hiff := left_out_iff hplan he hother hown
    exact ⟨hiff, fun hleft => replaced_iff hplan hleft (hiff.mp hleft)⟩
  · constructor
    · intro h
      exact grounded_of_replacesSuperseded m {} (h m.allColumns (.empty _ _) {})
    · intro hgrounded t _ o
      exact replacesSuperseded_of_grounded m hgrounded (View.derive t o)

theorem undrawn_column_supersedes :
    ¬ ∀ (path : Path) (file : Bytes) (t : Table) (o : DeriveOptions) (m : Manifest)
      (entries : List ManifestEntry), Table.load path file = .ok t →
      m.plan (View.derive t o) = .ok entries → ∀ e ∈ m, ∀ other, e.supersededBy = some other →
      (View.derive t o).table.hasColumn e.metric → e ∉ entries →
      ∃ e' ∈ entries, e' ≠ e ∧ e'.metric = other := by
  intro h
  let file := Text.toBytes "TreeType,Sortedness,ReadRatio,InsertTime,LeafCount\nA,0.5,0.5,1,2\n"
  let t : Table :=
    ⟨"in.csv", [Column.insertTime, Column.leafCount], [⟨"A", 0.5, 0.5, [some 1, some 2]⟩]⟩
  let e : ManifestEntry :=
    { optional (bars Column.insertTime "chart" "Chart" "Value") with
      supersededBy := some Column.leafCount }
  have hload : Table.load "in.csv" file = .ok t := by decide +kernel
  have hplan : plan [e] (View.derive t {}) = .ok [] := by decide +kernel
  have hown : (View.derive t {}).table.hasColumn e.metric := by decide +kernel
  obtain ⟨e', he', -⟩ := h "in.csv" file t {} [e] [] hload hplan e List.mem_cons_self
    Column.leafCount rfl hown List.not_mem_nil
  cases he'

end BenchReport.Manifest
