import BenchReport.Proofs.Table.Reachable
import BenchReport.Proofs.View.Lookup

namespace BenchReport.Table

def appendColumn? (t : Table) (name : String) (cells : List (Option Double)) : Option Table :=
  if cells.length = t.rows.length then some (t.appendColumn name cells) else none

structure Fitted (t : Table) (r q : Row) : Prop where
  treeType : q.treeType = r.treeType
  sortedness : q.sortedness = r.sortedness
  readRatio : q.readRatio = r.readRatio
  length : q.values.length = t.columns.length
  value : ∀ i < t.columns.length, q.value i = r.value i

theorem fit_getElem? (width : Nat) (values : List (Option Double)) (i : Nat) (hi : i < width) :
    (fit width values)[i]?.join = values[i]?.join := by
  unfold fit
  by_cases hlt : i < values.length
  · have htake : i < (values.take width).length := by
      rw [List.length_take]
      omega
    rw [List.getElem?_append_left htake, List.getElem?_take_of_lt hi]
  · have hnone : values[i]? = none := List.getElem?_eq_none (Nat.le_of_not_lt hlt)
    have hpad : (values.take width).length ≤ i := by
      rw [List.length_take]
      omega
    rw [hnone, List.getElem?_append_right hpad, List.getElem?_replicate]
    split_ifs <;> rfl

theorem fitted_add (t : Table) (r : Row) :
    ∃ q, t.add r = { t with rows := t.rows ++ [q] } ∧ t.Fitted r q :=
  ⟨_, rfl, rfl, rfl, rfl, fit_length _ _, fit_getElem? _ _⟩

theorem columnValues?_length (t : Table) (name : String) :
    (t.columnValues? name).map List.length =
      if name ∈ t.columns then some t.rows.length else none := by
  split_ifs with hname
  · have hindex : (t.columnIndex? name).isSome := List.isSome_idxOf?.mpr hname
    obtain ⟨i, hi⟩ := Option.isSome_iff_exists.mp hindex
    rw [columnValues?, hi, Option.map_some, Option.map_some, List.length_map]
  · rw [(t.columnValues?_eq_none_iff name).mpr hname, Option.map_none]

theorem length_appendCells (rows : List Row) (cells : List (Option Double)) :
    (appendCells rows cells).length = rows.length := by
  fun_induction appendCells rows cells with
  | case1 => rfl
  | case2 => rfl
  | case3 r rows cell cells ih => rw [List.length_cons, ih, List.length_cons]

theorem foldlM_appendColumn? (columns : List (String × List (Option Double))) (t : Table)
    (h : ∀ c ∈ columns, c.2.length = t.rows.length) :
    columns.foldlM (fun u c => u.appendColumn? c.1 c.2) t =
      some (columns.foldl (fun u c => u.appendColumn c.1 c.2) t) := by
  induction columns generalizing t with
  | nil => rfl
  | cons c columns ih =>
    obtain ⟨hc, hcolumns⟩ := List.forall_mem_cons.mp h
    have hstep : t.appendColumn? c.1 c.2 = some (t.appendColumn c.1 c.2) := if_pos hc
    rw [List.foldlM_cons, hstep, List.foldl_cons]
    apply ih
    intro d hd
    rw [hcolumns d hd]
    exact (length_appendCells t.rows c.2).symm

theorem derivedColumns_length (t : Table) (o : DeriveOptions) :
    ∀ c ∈ View.derivedColumns t o, c.2.length = t.rows.length := by
  rw [View.derivedColumns_eq]
  intro c hc
  obtain ⟨d, -, rfl⟩ := List.mem_map.mp hc
  exact List.length_map _

/-- In a table that a report can come to hold, each row has one slot for each column. A row is added
behind all others, which stay as they are, and keeps its cells as far as there are columns for them.
A name that is there finds as many cells as there are rows, and deriving never appends a column with
more or fewer cells than that. -/
theorem rows_fit_columns (t : Table) (ht : t.Reachable) :
    (∀ r ∈ t.rows, r.values.length = t.columns.length) ∧
      (∀ r, ∃ q, t.add r = { t with rows := t.rows ++ [q] } ∧ t.Fitted r q) ∧
      (∀ name, (t.columnValues? name).map List.length =
        if name ∈ t.columns then some t.rows.length else none) ∧
      ∀ o, (View.derivedColumns t o).foldlM (fun u c => u.appendColumn? c.1 c.2) t =
        some (View.derive t o).table := by
  refine ⟨ht.rectangular, t.fitted_add, t.columnValues?_length, ?_⟩
  intro o
  exact foldlM_appendColumn? _ t (derivedColumns_length t o)

def unevenRuns : Table :=
  ((Table.empty "runs.csv" [Column.insertTime, Column.fastPathHits]).add
    ⟨"SimpleBTree", 0.5, 0.5, [some 4]⟩).add ⟨"LasTree", 0.5, 0.5, [some 2, some 10, some 7]⟩

def extendedRuns : Table :=
  (View.derive unevenRuns ⟨some 20, defaultBaseline⟩).table.add ⟨"LasTree", 1, 0.5, [none, some 5]⟩

theorem extendedRuns_fit_columns :
    extendedRuns.Reachable ∧
      extendedRuns.columns = [Column.insertTime, Column.fastPathHits, Column.sortednessPercent,
        Column.fastPathHitRate, Column.insertSpeedup] ∧
      extendedRuns.rows.map (·.values) = [[some 4, none, some 50, none, some 1],
        [some 2, some 10, some 50, some 50, some 2], [none, some 5, none, none, none]] ∧
      (∀ r ∈ extendedRuns.rows, r.values.length = 5) ∧
      (extendedRuns.columnValues? Column.insertSpeedup).map List.length = some 3 ∧
      (View.derivedColumns extendedRuns {}).foldlM (fun u c => u.appendColumn? c.1 c.2)
        extendedRuns = some (View.derive extendedRuns {}).table := by
  have hreachable : extendedRuns.Reachable := .add _ (.derive _ (.add _ (.add _ (.empty _ _))))
  have hcolumns : extendedRuns.columns = [Column.insertTime, Column.fastPathHits,
      Column.sortednessPercent, Column.fastPathHitRate, Column.insertSpeedup] := by decide +kernel
  obtain ⟨hslots, -, hcells, hderived⟩ := rows_fit_columns extendedRuns hreachable
  have hspeedups := hcells Column.insertSpeedup
  rw [hcolumns] at hslots hspeedups
  exact ⟨hreachable, hcolumns, by decide +kernel, hslots, hspeedups, hderived {}⟩

end BenchReport.Table
