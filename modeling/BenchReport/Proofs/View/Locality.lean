import BenchReport.Proofs.View.Columns
import BenchReport.Proofs.View.Lookup

namespace BenchReport

namespace Table

def trialsAt (t : Table) (tree : String) (sortedness ratio : Double) : List Row :=
  t.rows.filter fun r => r.treeType = tree ∧ r.sortedness = sortedness ∧ r.readRatio = ratio

def derivedCell? (t : Table) (v : View) (name : String) (r : Row) : Option Double :=
  ((v.table.columns.drop t.columns.length).idxOf? name).bind fun i =>
    r.value (t.columns.length + i)

/-- A row of one table and a row of another have the same time at the same sortedness and read
ratio, and the trials of the baseline there have the same times, one by one. -/
structure SameTimes (t t' : Table) (baseline source : String) (r r' : Row) : Prop where
  sortedness : r'.sortedness = r.sortedness
  readRatio : r'.readRatio = r.readRatio
  time : t'.cell? source r' = t.cell? source r
  baseline : (t'.trialsAt baseline r.sortedness r.readRatio).map (t'.cell? source) =
    (t.trialsAt baseline r.sortedness r.readRatio).map (t.cell? source)

end Table

namespace View

theorem extend_value (ds : List Deriver) (r : Row) (i : Nat) :
    (extend ds r).value (r.values.length + i) = ds[i]?.bind (·.2 r) := by
  rw [Row.value, extend, List.getElem?_append_right (Nat.le_add_right _ _), Nat.add_sub_cancel_left,
    List.getElem?_map]
  cases ds[i]? <;> rfl

theorem idxOf?_bind_cell (ds : List Deriver) (name : String) (r : Row) :
    ((ds.map (·.1)).idxOf? name).bind (fun i => ds[i]?.bind (·.2 r)) =
      (ds.lookup name).bind (· r) := by
  induction ds with
  | nil => rfl
  | cons d ds ih =>
    rw [List.map_cons, List.idxOf?_cons, List.lookup_cons]
    by_cases h : d.1 = name
    · simp [h]
    · have hfirst : (d.1 == name) = false := by simpa using h
      have hother : (name == d.1) = false := by simpa using Ne.symm h
      rw [hfirst, hother, if_neg Bool.false_ne_true, Option.bind_map]
      exact ih

variable (t : Table) (o : DeriveOptions)

theorem derivers_names_nodup : ((derivers t o).map (·.1)).Nodup := by
  have hnames : (derivers t o).map (·.1) = (derivedColumns t o).map (·.1) := by
    rw [derivedColumns_eq, List.map_map]
    rfl
  rw [hnames]
  exact (derivedColumns_names t o).nodup (by decide)

theorem derivers_lookup_speedup (source target : String)
    (h : (source, target) ∈ Column.speedups) :
    (derivers t o).lookup target = speedup? t source o.baseline := by
  cases hcell : speedup? t source o.baseline with
  | some cell =>
    have hmem : (target, cell) ∈ derivers t o := by
      apply List.mem_append_right
      exact List.mem_filterMap.mpr ⟨(source, target), h, by simp [hcell]⟩
    exact lookup_of_nodup (derivers_names_nodup t o) (target, cell) hmem
  | none =>
    have hnames : ∀ column ∈ Column.speedups, column.2 ≠ Column.sortednessPercent ∧
        column.2 ≠ Column.fastPathHitRate ∧
          ∀ column' ∈ Column.speedups, column'.2 = column.2 → column'.1 = column.1 := by decide
    obtain ⟨hpercent, hrate, hunique⟩ := hnames (source, target) h
    apply List.lookup_eq_none_iff.mpr
    intro d hd
    have hother : target ≠ d.1 := by
      rintro rfl
      rcases mem_derivers hd with rfl | ⟨cell, -, rfl⟩ | ⟨column, hcolumn, cell, hsome, rfl⟩
      · exact hpercent rfl
      · exact hrate rfl
      · rw [hunique column hcolumn rfl, hcell] at hsome
        cases hsome
    simpa using hother

theorem derivedCell?_speedup (ht : t.Rectangular) (source target : String)
    (h : (source, target) ∈ Column.speedups) (r : Row) (hr : r ∈ t.rows) :
    t.derivedCell? (derive t o) target (extend (derivers t o) r) =
      speedup (t.baselineCells o source r) (t.cell? source r) := by
  have hcell : t.derivedCell? (derive t o) target (extend (derivers t o) r) =
      (speedup? t source o.baseline).bind (· r) := by
    rw [← derivers_lookup_speedup t o source target h, ← idxOf?_bind_cell, Table.derivedCell?,
      derive_table, List.drop_left]
    simp only [← ht r hr, extend_value]
  rw [hcell, speedup?_eq]
  split_ifs with hbaseline
  · rfl
  · -- no column then, and no baseline that the row could be held against
    have hnone : t.baselineCells o source r = [] := by
      apply List.filterMap_eq_nil_iff.mpr
      intro b hb
      obtain ⟨hb, hkey⟩ := List.mem_filter.mp hb
      obtain ⟨htree, -, -⟩ := of_decide_eq_true hkey
      by_contra hvalue
      exact hbaseline ⟨b, hb, htree, Option.isSome_iff_ne_none.mpr hvalue⟩
    rw [hnone]
    rfl

/-- A speedup is local: rows with the same time, at a sortedness and read ratio where the trials of
the baseline have the same times, get the same speedup from their tables, whatever the tables hold
besides. -/
theorem speedup_local (t t' : Table) (ht : t.Reachable) (ht' : t'.Reachable) (o o' : DeriveOptions)
    (hbaseline : o'.baseline = o.baseline) (source target : String)
    (hspeedup : (source, target) ∈ Column.speedups) (i j : Nat) (r r' : Row)
    (hr : t.rows[i]? = some r) (hr' : t'.rows[j]? = some r')
    (hsame : t.SameTimes t' o.baseline source r r') :
    ∃ q q', (derive t o).table.rows[i]? = some q ∧ (derive t' o').table.rows[j]? = some q' ∧
      t'.derivedCell? (derive t' o') target q' = t.derivedCell? (derive t o) target q := by
  have hrow (t : Table) (o : DeriveOptions) (i : Nat) (r : Row) (hr : t.rows[i]? = some r) :
      (derive t o).table.rows[i]? = some (extend (derivers t o) r) := by
    rw [derive_table, List.getElem?_map, hr, Option.map_some]
  have hcells : t'.baselineCells o' source r' = t.baselineCells o source r := by
    have hpresent := congrArg (List.filterMap id) hsame.baseline
    rw [List.filterMap_map, List.filterMap_map] at hpresent
    rw [Table.baselineCells, hbaseline, hsame.sortedness, hsame.readRatio]
    exact hpresent
  refine ⟨_, _, hrow t o i r hr, hrow t' o' j r' hr', ?_⟩
  rw [derivedCell?_speedup t o ht.rectangular source target hspeedup r (List.mem_of_getElem? hr),
    derivedCell?_speedup t' o' ht'.rectangular source target hspeedup r' (List.mem_of_getElem? hr'),
    hcells, hsame.time]

def quietTimes : Table :=
  ((Table.empty "quiet.csv" [Column.insertTime, Column.fastPathHits]).add
    ⟨"SimpleBTree", 0.5, 0.5, [some 3, none]⟩).add ⟨"LasTree", 0.5, 0.5, [some 2, none]⟩

def busyTimes : Table :=
  ((((Table.empty "busy.csv" [Column.insertTime, Column.fastPathHits]).add
    ⟨"LasTree", 0.5, 0.5, [some 2, some 7]⟩).add ⟨"SimpleBTree", 0.25, 0.5, [some 8, none]⟩).add
      ⟨"SimpleBTree", 0.5, 0.5, [some 3, some 1]⟩).add ⟨"LasTree", 0.25, 0.5, [none, none]⟩

theorem busyTimes_speedup_local :
    quietTimes.Reachable ∧ busyTimes.Reachable ∧
      quietTimes.SameTimes busyTimes defaultBaseline Column.insertTime
        ⟨"LasTree", 0.5, 0.5, [some 2, none]⟩ ⟨"LasTree", 0.5, 0.5, [some 2, some 7]⟩ ∧
      (derive quietTimes {}).table.rows[1]? =
        some ⟨"LasTree", 0.5, 0.5, [some 2, none, some 50, some 1.5]⟩ ∧
      (derive busyTimes ⟨some 40, defaultBaseline⟩).table.rows[0]? =
        some ⟨"LasTree", 0.5, 0.5, [some 2, some 7, some 50, some 17.5, some 1.5]⟩ ∧
      busyTimes.derivedCell? (derive busyTimes ⟨some 40, defaultBaseline⟩) Column.insertSpeedup
          ⟨"LasTree", 0.5, 0.5, [some 2, some 7, some 50, some 17.5, some 1.5]⟩ =
        quietTimes.derivedCell? (derive quietTimes {}) Column.insertSpeedup
          ⟨"LasTree", 0.5, 0.5, [some 2, none, some 50, some 1.5]⟩ := by
  have hquiet : quietTimes.Reachable := .add _ (.add _ (.empty _ _))
  have hbusy : busyTimes.Reachable := .add _ (.add _ (.add _ (.add _ (.empty _ _))))
  have hsame : quietTimes.SameTimes busyTimes defaultBaseline Column.insertTime
      ⟨"LasTree", 0.5, 0.5, [some 2, none]⟩ ⟨"LasTree", 0.5, 0.5, [some 2, some 7]⟩ :=
    ⟨rfl, rfl, by decide +kernel, by decide +kernel⟩
  obtain ⟨q, q', hq, hq', hcell⟩ := speedup_local quietTimes busyTimes hquiet hbusy {}
    ⟨some 40, defaultBaseline⟩ rfl Column.insertTime Column.insertSpeedup List.mem_cons_self 1 0 _ _
    (by decide +kernel) (by decide +kernel) hsame
  have hrow : (derive quietTimes {}).table.rows[1]? =
      some ⟨"LasTree", 0.5, 0.5, [some 2, none, some 50, some 1.5]⟩ := by decide +kernel
  have hrow' : (derive busyTimes ⟨some 40, defaultBaseline⟩).table.rows[0]? =
      some ⟨"LasTree", 0.5, 0.5, [some 2, some 7, some 50, some 17.5, some 1.5]⟩ := by
    decide +kernel
  rw [hrow, Option.some.injEq] at hq
  rw [hrow', Option.some.injEq] at hq'
  rw [← hq, ← hq'] at hcell
  exact ⟨hquiet, hbusy, hsame, hrow, hrow', hcell⟩

end View

end BenchReport
