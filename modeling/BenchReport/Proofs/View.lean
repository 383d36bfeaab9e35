import BenchReport.Proofs.View.Baseline
import Mathlib.Data.List.Basic

namespace BenchReport

namespace Table

def Rectangular (t : Table) : Prop := ∀ r ∈ t.rows, r.values.length = t.columns.length

def cell? (t : Table) (name : String) (r : Row) : Option Double :=
  (t.columnIndex? name).bind r.value

theorem columnIndex?_lt (t : Table) (name : String) (i : Nat) (h : t.columnIndex? name = some i) :
    i < t.columns.length := by
  obtain ⟨hi, -⟩ := List.findIdx?_eq_some_iff_getElem.mp h
  exact hi

theorem appendCells_map (rows : List Row) (row : Row → Row) (cell : Row → Option Double) :
    appendCells (rows.map row) (rows.map cell) =
      rows.map fun r => { row r with values := (row r).values ++ [cell r] } := by
  induction rows with
  | nil => rfl
  | cons r rows ih => simp only [List.map_cons, appendCells, ih]

end Table

namespace View

abbrev Deriver := String × (Row → Option Double)

def extend (ds : List Deriver) (r : Row) : Row := { r with values := r.values ++ ds.map (·.2 r) }

section Arithmetic

variable [Add Double] [Mul Double] [Div Double]

def hitRateCells? (t : Table) (trials : Option UInt64) : Option (List (Option Double)) :=
  (hitRateCellsBy Double.plainDiv t trials).run

def hitRate? (t : Table) (trials : Option UInt64) : Option (Row → Option Double) :=
  match t.columnIndex? Column.fastPathHits, trials with
  | some i, some n => some fun r => (r.value i).map fun h => h * 100 / (n.toNat : Double)
  | _, _ => none

def speedup? (t : Table) (column baseline : String) : Option (Row → Option Double) :=
  match t.columnIndex? column with
  | none => none
  | some i =>
    if ∃ r ∈ t.rows, r.treeType = baseline ∧ (r.value i).isSome then
      some fun r => speedup (baselineTimes t i baseline r.sortedness r.readRatio) (r.value i)
    else none

def derivers (t : Table) (o : DeriveOptions) : List Deriver :=
  (Column.sortednessPercent, fun r => some (r.sortedness * 100)) ::
    ((hitRate? t o.trialCount).toList.map fun cell => (Column.fastPathHitRate, cell)) ++
    Column.speedups.filterMap fun (source, target) =>
      (speedup? t source o.baseline).map fun cell => (target, cell)

theorem mem_derivers {t : Table} {o : DeriveOptions} {d : Deriver} (h : d ∈ derivers t o) :
    d = (Column.sortednessPercent, fun r => some (r.sortedness * 100)) ∨
      (∃ cell, hitRate? t o.trialCount = some cell ∧ d = (Column.fastPathHitRate, cell)) ∨
      ∃ column ∈ Column.speedups, ∃ cell, speedup? t column.1 o.baseline = some cell ∧
        d = (column.2, cell) := by
  simp only [derivers, List.cons_append, List.mem_cons, List.mem_append, List.mem_map,
    Option.mem_toList, List.mem_filterMap, Option.map_eq_some_iff] at h
  rcases h with rfl | ⟨cell, hcell, rfl⟩ | ⟨column, hcolumn, cell, hcell, rfl⟩
  · exact .inl rfl
  · exact .inr (.inl ⟨cell, hcell, rfl⟩)
  · exact .inr (.inr ⟨column, hcolumn, cell, hcell, rfl⟩)

omit [Add Double] in
theorem hitRateCells?_eq_match (t : Table) (trials : Option UInt64) :
    hitRateCells? t trials =
      match t.columnValues? Column.fastPathHits, trials with
      | some hits, some n => some (hits.map fun h => h.map fun h => h * 100 / (n.toNat : Double))
      | _, _ => none := by
  unfold hitRateCells? hitRateCellsBy
  cases t.columnValues? Column.fastPathHits with
  | none => rfl
  | some hits =>
    cases trials with
    | none => rfl
    | some n =>
      rw [Id.run_map, List.idRun_mapM]
      congr 2
      funext cell
      cases cell <;> rfl

omit [Add Double] in
theorem hitRateCells?_eq (t : Table) (trials : Option UInt64) :
    hitRateCells? t trials = (hitRate? t trials).map fun cell => t.rows.map cell := by
  rw [hitRateCells?_eq_match]
  unfold hitRate? Table.columnValues?
  cases t.columnIndex? Column.fastPathHits with
  | none => rfl
  | some i =>
    cases trials with
    | none => rfl
    | some n => simp [Function.comp_def]

omit [Mul Double] in
theorem speedupCells?_eq (t : Table) (column baseline : String) :
    speedupCells? t column baseline = (speedup? t column baseline).map fun cell => t.rows.map cell := by
  rw [speedupCells?_eq_rows]
  unfold speedup?
  cases t.columnIndex? column with
  | none => rfl
  | some i =>
    dsimp only
    split_ifs <;> rfl

theorem derivedColumns_eq_append (t : Table) (o : DeriveOptions) :
    derivedColumns t o = (Column.sortednessPercent, percentCells t) ::
      ((hitRateCells? t o.trialCount).toList.map fun cells => (Column.fastPathHitRate, cells)) ++
      Column.speedups.filterMap fun (source, target) =>
        (speedupCells? t source o.baseline).map fun cells => (target, cells) := by
  simp only [derivedColumns, derivedColumnsBy, Id.run_bind, Id.run_pure, List.idRun_mapM, Id.run_map,
    List.filterMap_map]
  rfl

theorem derivedColumns_eq (t : Table) (o : DeriveOptions) :
    derivedColumns t o = (derivers t o).map fun d => (d.1, t.rows.map d.2) := by
  simp only [derivedColumns_eq_append, derivers, hitRateCells?_eq, speedupCells?_eq, percentCells,
    List.map_append, List.map_cons, List.map_map, List.map_filterMap, Option.map_map]
  congr 2
  cases hitRate? t o.trialCount <;> rfl

omit [Add Double] [Mul Double] [Div Double] in
theorem foldl_appendColumn (t : Table) (done ds : List Deriver) :
    (ds.map fun d => (d.1, t.rows.map d.2)).foldl (fun (u : Table) c => u.appendColumn c.1 c.2)
        ⟨t.source, t.columns ++ done.map (·.1), t.rows.map (extend done)⟩ =
      ⟨t.source, t.columns ++ (done ++ ds).map (·.1), t.rows.map (extend (done ++ ds))⟩ := by
  -- the rows already have the cells of `done`
  induction ds generalizing done with
  | nil => simp
  | cons d ds ih =>
    have hstep : Table.appendColumn
        ⟨t.source, t.columns ++ done.map (·.1), t.rows.map (extend done)⟩ d.1 (t.rows.map d.2) =
        ⟨t.source, t.columns ++ (done ++ [d]).map (·.1), t.rows.map (extend (done ++ [d]))⟩ := by
      simp [Table.appendColumn, Table.appendCells_map, extend]
    rw [List.map_cons, List.foldl_cons, hstep, ih, List.append_assoc, List.singleton_append]

theorem derive_table (t : Table) (o : DeriveOptions) :
    (derive t o).table = ⟨t.source, t.columns ++ (derivers t o).map (·.1),
      t.rows.map (extend (derivers t o))⟩ := by
  have hnil : extend [] = id := by
    funext r
    simp [extend]
  have hfold := foldl_appendColumn t [] (derivers t o)
  rw [← derivedColumns_eq, hnil] at hfold
  simp only [List.map_nil, List.append_nil, List.map_id, List.nil_append] at hfold
  exact hfold

theorem derive_rectangular (t : Table) (o : DeriveOptions) (h : t.Rectangular) :
    (derive t o).table.Rectangular := by
  rw [derive_table]
  intro r' hr'
  obtain ⟨r, hr, rfl⟩ := List.mem_map.mp hr'
  simp [extend, h r hr]

theorem percent_derive (t : Table) (o : DeriveOptions) (h : t.Rectangular) (r : Row)
    (hr : r ∈ (derive t o).table.rows) : (derive t o).percent r = r.sortedness * 100 := by
  rw [derive_table] at hr
  obtain ⟨q, hq, rfl⟩ := List.mem_map.mp hr
  have hcell : (extend (derivers t o) q).values[t.columns.length]? =
      some (some (q.sortedness * 100)) := by
    rw [← h q hq]
    simp [extend, derivers]
  have hvalue : (extend (derivers t o) q).value t.columns.length = some (q.sortedness * 100) := by
    rw [Row.value, hcell]
    rfl
  have hindex : (derive t o).percentIndex = t.columns.length := rfl
  rw [percent, hindex, hvalue, Option.getD_some]
  rfl

end Arithmetic

end View

end BenchReport
