import BenchReport.Proofs.Lookup
import BenchReport.Proofs.Table.Loading
import BenchReport.Series

namespace BenchReport

namespace Table

def listing (t : Table) : List (String × List (Option Double)) :=
  t.columns.mapIdx fun i name => (name, t.rows.map (·.value i))

theorem lookup_mapIdx {α : Type} (names : List String) (name : String) (f : Nat → α) :
    (names.mapIdx fun i n => (n, f i)).lookup name = (names.idxOf? name).map f := by
  induction names generalizing f with
  | nil => rfl
  | cons n names ih =>
    rw [List.mapIdx_cons, List.lookup_cons, List.idxOf?_cons, ih]
    by_cases h : n = name
    · simp [h]
    · have hother : (name == n) = false := by simpa using Ne.symm h
      simp [h, hother, Function.comp_def]

theorem columnValues?_eq_lookup (t : Table) (name : String) :
    t.columnValues? name = t.listing.lookup name := by
  rw [listing, lookup_mapIdx t.columns name fun i => t.rows.map (·.value i)]
  rfl

theorem hasColumn_eq_isSome (t : Table) (name : String) :
    t.hasColumn name = (t.columnValues? name).isSome := by
  rw [hasColumn, columnValues?, Option.isSome_map]

theorem columnValues?_eq_none_iff (t : Table) (name : String) :
    t.columnValues? name = none ↔ name ∉ t.columns := by
  rw [columnValues?, Option.map_eq_none_iff]
  exact List.idxOf?_eq_none_iff

def HasValue (t : Table) (name : String) : Prop :=
  ∃ cells, t.columnValues? name = some cells ∧ ∃ value, some value ∈ cells

end Table

namespace View

theorem derive_listing (t : Table) (o : DeriveOptions) (h : t.Rectangular) :
    (derive t o).table.listing = t.listing ++ derivedColumns t o := by
  rw [derive_table, derivedColumns_eq, Table.listing, List.mapIdx_append]
  congr 1
  · apply List.mapIdx_eq_mapIdx_iff.mpr
    intro i hi
    simp only [List.map_map, Prod.mk.injEq, true_and]
    apply List.map_congr_left
    intro r hr
    rw [Function.comp_apply, Row.value, Row.value, extend, List.getElem?_append_left]
    rwa [h r hr]
  · apply List.ext_getElem (by simp)
    intro i hi hi'
    simp only [List.getElem_mapIdx, List.getElem_map, List.map_map, Prod.mk.injEq, true_and]
    apply List.map_congr_left
    intro r hr
    have hlt : i < (derivers t o).length := by simpa using hi
    rw [Function.comp_apply, Row.value, extend, List.getElem?_append_right (by simp [h r hr])]
    simp [h r hr, hlt]

theorem filterMap_names_sublist {α : Type} (pairs : List (String × String))
    (column? : String × String → Option (String × α))
    (h : ∀ pair c, column? pair = some c → c.1 = pair.2) :
    ((pairs.filterMap column?).map (·.1)).Sublist (pairs.map (·.2)) := by
  induction pairs with
  | nil => exact .slnil
  | cons pair pairs ih =>
    rw [List.filterMap_cons, List.map_cons]
    cases hcolumn : column? pair with
    | none => exact ih.cons pair.2
    | some c =>
      rw [← h pair c hcolumn]
      exact ih.cons_cons c.1

theorem derivedColumns_names (t : Table) (o : DeriveOptions) :
    ((derivedColumns t o).map (·.1)).Sublist
      ([Column.sortednessPercent, Column.fastPathHitRate] ++ Column.speedups.map (·.2)) := by
  rw [derivedColumns_eq_append, List.map_append, List.map_cons]
  refine .append (.cons_cons _ ?_) (filterMap_names_sublist Column.speedups _ ?_)
  · cases hitRateCells? t o.trialCount with
    | none => exact List.nil_sublist _
    | some cells => exact List.Sublist.refl _
  · intro pair c h
    obtain ⟨cells, -, rfl⟩ := Option.map_eq_some_iff.mp h
    rfl

theorem derivedColumns_lookup (t : Table) (o : DeriveOptions) (c : String × List (Option Double))
    (h : c ∈ derivedColumns t o) : (derivedColumns t o).lookup c.1 = some c.2 :=
  lookup_of_nodup ((derivedColumns_names t o).nodup (by decide)) c h

theorem derive_columnValues? (t : Table) (o : DeriveOptions) (h : t.Rectangular) (name : String) :
    (derive t o).table.columnValues? name =
      (t.columnValues? name).or ((derivedColumns t o).lookup name) := by
  rw [Table.columnValues?_eq_lookup, derive_listing t o h, List.lookup_append,
    ← Table.columnValues?_eq_lookup]

theorem samples_eq (v : View) (name : String) :
    v.samples name =
      (v.table.rows.zip ((v.table.columnValues? name).getD [])).filterMap fun (r, cell) =>
        cell.map fun value => ⟨⟨r.readRatio, r.treeType⟩, v.percent r, value⟩ := by
  unfold samples Table.columnValues?
  cases v.table.columnIndex? name with
  | none => simp
  | some i =>
    have hzip : v.table.rows.zip (v.table.rows.map (·.value i)) =
        v.table.rows.map fun r => (r, r.value i) := by
      simpa using (List.zip_map' (f := id) : _ = v.table.rows.map fun r => (r, r.value i))
    simp only [Option.map_some, Option.getD_some, hzip, List.filterMap_map]
    rfl

theorem samples_eq_nil_iff (v : View) (name : String) :
    v.samples name = [] ↔ ¬ v.table.HasValue name := by
  unfold samples Table.HasValue Table.columnValues?
  cases v.table.columnIndex? name with
  | none => simp
  | some i =>
    simp only [List.filterMap_eq_nil_iff, Option.map_eq_none_iff, Option.map_some,
      Option.some.injEq, exists_eq_left', List.mem_map]
    constructor
    · rintro h ⟨x, r, hr, hx⟩
      rw [h r hr] at hx
      cases hx
    · intro h r hr
      apply Option.eq_none_iff_forall_ne_some.mpr
      intro x hx
      exact h ⟨x, r, hr, hx⟩

theorem derive_hasValue (t : Table) (o : DeriveOptions) (h : t.Rectangular) (name : String)
    (hvalue : t.HasValue name) : (derive t o).table.HasValue name := by
  obtain ⟨cells, hcells, hsome⟩ := hvalue
  refine ⟨cells, ?_, hsome⟩
  rw [derive_columnValues? t o h, hcells, Option.some_or]

/-- A derived column is the one that its name finds, unless the file has a column of that name:
then the name finds the column of the file. Charts and plans look a column up in the same way. -/
theorem derived_columns_found (path : Path) (file : Bytes) (t : Table) (o : DeriveOptions)
    (h : Table.load path file = .ok t) :
    (derive t o).table.columns = t.columns ++ (derivedColumns t o).map (·.1) ∧
      (∀ c ∈ derivedColumns t o, (derive t o).table.columnValues? c.1 =
        if c.1 ∈ t.columns then t.columnValues? c.1 else some c.2) ∧
      (Column.sortednessPercent, t.rows.map fun r => some (r.sortedness * 100)) ∈
        derivedColumns t o ∧
      ∀ (v : View) (name : String),
        v.table.hasColumn name = (v.table.columnValues? name).isSome ∧
          v.samples name =
            (v.table.rows.zip ((v.table.columnValues? name).getD [])).filterMap fun (r, cell) =>
              cell.map fun value => ⟨⟨r.readRatio, r.treeType⟩, v.percent r, value⟩ := by
  refine ⟨?_, ?_, List.mem_cons_self, ?_⟩
  · simp [derive_table, derivedColumns_eq]
  · intro c hc
    rw [derive_columnValues? t o (Table.load_rectangular path file t h),
      derivedColumns_lookup t o c hc]
    split_ifs with hown
    · cases hcells : t.columnValues? c.1 with
      | none => exact absurd hown ((t.columnValues?_eq_none_iff c.1).mp hcells)
      | some cells => rfl
    · rw [(t.columnValues?_eq_none_iff c.1).mpr hown, Option.none_or]
  · intro v name
    exact ⟨v.table.hasColumn_eq_isSome name, samples_eq v name⟩

def ownPercentFile : Bytes :=
  Text.toBytes "TreeType,Sortedness,ReadRatio,FastPathHits,SortednessPercent\nA,0.5,0.5,10,7\n"

def ownPercent : Table :=
  ⟨"own.csv", [Column.fastPathHits, Column.sortednessPercent], [⟨"A", 0.5, 0.5, [some 10, some 7]⟩]⟩

theorem ownPercent_columns_found :
    Table.load "own.csv" ownPercentFile = .ok ownPercent ∧
      (derive ownPercent ⟨some 20, "A"⟩).table.columns = [Column.fastPathHits,
        Column.sortednessPercent, Column.sortednessPercent, Column.fastPathHitRate] ∧
      (derive ownPercent ⟨some 20, "A"⟩).table.columnValues? Column.sortednessPercent =
        some [some 7] ∧
      (derive ownPercent ⟨some 20, "A"⟩).table.columnValues? Column.fastPathHitRate =
        some [some 50] := by
  have hload : Table.load "own.csv" ownPercentFile = .ok ownPercent := by decide +kernel
  have hderived : derivedColumns ownPercent ⟨some 20, "A"⟩ =
      [(Column.sortednessPercent, [some 50]), (Column.fastPathHitRate, [some 50])] := by
    decide +kernel
  obtain ⟨hcolumns, hfound, -⟩ :=
    derived_columns_found "own.csv" ownPercentFile ownPercent ⟨some 20, "A"⟩ hload
  rw [hderived] at hcolumns hfound
  have hpercent := hfound (Column.sortednessPercent, [some 50]) (by simp)
  have hrate := hfound (Column.fastPathHitRate, [some 50]) (by simp)
  refine ⟨hload, hcolumns, ?_, ?_⟩
  · rw [hpercent]
    decide +kernel
  · rw [hrate]
    decide +kernel

theorem ownPercent_hides_derived :
    ¬ ∀ (path : Path) (file : Bytes) (t : Table) (o : DeriveOptions), Table.load path file = .ok t →
      ∀ c ∈ derivedColumns t o, (derive t o).table.columnValues? c.1 = some c.2 := by
  intro h
  have hload : Table.load "own.csv" ownPercentFile = .ok ownPercent := by decide +kernel
  have hpercent : (Column.sortednessPercent, [some 50]) ∈ derivedColumns ownPercent {} := by
    decide +kernel
  have hown : (derive ownPercent {}).table.columnValues? Column.sortednessPercent ≠
      some [some 50] := by decide +kernel
  exact hown (h "own.csv" ownPercentFile ownPercent {} hload _ hpercent)

end View

end BenchReport
