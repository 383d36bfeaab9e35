import BenchReport.Proofs.View.Lookup
import BenchReport.Summary

namespace BenchReport

namespace Column

def sources : List (String × String) := (fastPathHits, fastPathHitRate) :: speedups

end Column

namespace View

def speedupsOf? (baseline : String) (cells : List (Configuration × Option Double)) :
    Option (List (Option Double)) :=
  if ∃ c ∈ cells, c.1.treeType = baseline ∧ c.2.isSome then
    some (cells.map fun c =>
      speedup
        (cells.filterMap fun b =>
          if b.1.treeType = baseline ∧ b.1.sortedness = c.1.sortedness ∧
            b.1.readRatio = c.1.readRatio then b.2 else none)
        c.2)
  else none

theorem speedupCells?_eq_speedupsOf? (t : Table) (column baseline : String) :
    speedupCells? t column baseline = (t.columnValues? column).bind fun cells =>
      speedupsOf? baseline ((t.rows.map (·.configuration)).zip cells) := by
  rw [speedupCells?_eq_rows]
  unfold Table.columnValues?
  cases t.columnIndex? column with
  | none => rfl
  | some i =>
    simp only [Option.map_some, Option.bind_some, List.zip_map', speedupsOf?, List.mem_map,
      exists_exists_and_eq_and, List.map_map, List.filterMap_map]
    rfl

def derivedCells? (t : Table) (o : DeriveOptions) (column : String × String) :
    Option (List (Option Double)) :=
  if column.2 = Column.fastPathHitRate then hitRateCells? t o.trialCount
  else speedupCells? t column.1 o.baseline

theorem derivedColumns_eq_sources (t : Table) (o : DeriveOptions) :
    derivedColumns t o = (Column.sortednessPercent, percentCells t) ::
      Column.sources.filterMap fun column =>
        (derivedCells? t o column).map fun cells => (column.2, cells) := by
  have hspeedups : ∀ column ∈ Column.speedups, column.2 ≠ Column.fastPathHitRate := by decide
  have hrest : (Column.speedups.filterMap fun column =>
      (derivedCells? t o column).map fun cells => (column.2, cells)) =
      Column.speedups.filterMap fun column =>
        (speedupCells? t column.1 o.baseline).map fun cells => (column.2, cells) := by
    apply List.filterMap_congr
    intro column hcolumn
    rw [derivedCells?, if_neg (hspeedups column hcolumn)]
  have hrate : derivedCells? t o (Column.fastPathHits, Column.fastPathHitRate) =
      hitRateCells? t o.trialCount := if_pos rfl
  rw [derivedColumns_eq_append, Column.sources, List.filterMap_cons, hrate, hrest]
  cases hitRateCells? t o.trialCount <;> rfl

theorem lookup_filterMap_congr {α : Type} (columns : List (String × String))
    (f g : String × String → Option α) (name : String)
    (h : ∀ column ∈ columns, column.2 = name → f column = g column) :
    (columns.filterMap fun c => (f c).map fun cells => (c.2, cells)).lookup name =
      (columns.filterMap fun c => (g c).map fun cells => (c.2, cells)).lookup name := by
  induction columns with
  | nil => rfl
  | cons column columns ih =>
    obtain ⟨hcolumn, hcolumns⟩ := List.forall_mem_cons.mp h
    rw [List.filterMap_cons, List.filterMap_cons]
    by_cases hname : column.2 = name
    · rw [hcolumn hname]
      cases g column <;> simp [hname, ih hcolumns]
    · have hother : (name == column.2) = false := by simpa using Ne.symm hname
      cases f column <;> cases g column <;> simp [List.lookup_cons, hother, ih hcolumns]

variable (t t' : Table) (o : DeriveOptions) (name : String)

theorem derive_configurations :
    (derive t o).table.rows.map (·.configuration) = t.rows.map (·.configuration) := by
  rw [derive_table, List.map_map]
  rfl

theorem derivedColumns_lookup_congr
    (hrows : t'.rows.map (·.configuration) = t.rows.map (·.configuration))
    (hsource : ∀ source, (source, name) ∈ Column.sources →
      t'.columnValues? source = t.columnValues? source) :
    (derivedColumns t' o).lookup name = (derivedColumns t o).lookup name := by
  have hpercent : percentCells t' = percentCells t := by
    have hmap := congrArg (List.map fun c : Configuration => some (c.sortedness * 100)) hrows
    rw [List.map_map, List.map_map] at hmap
    exact hmap
  have hcells : ∀ column ∈ Column.sources, column.2 = name →
      derivedCells? t' o column = derivedCells? t o column := by
    rintro ⟨source, target⟩ hcolumn rfl
    unfold derivedCells?
    split_ifs with hrate
    · -- the hit rate is made from the hits, whatever source is named beside it
      obtain rfl : target = Column.fastPathHitRate := hrate
      rw [hitRateCells?_eq_match, hitRateCells?_eq_match,
        hsource Column.fastPathHits List.mem_cons_self]
    · rw [speedupCells?_eq_speedupsOf?, speedupCells?_eq_speedupsOf?, hsource source hcolumn, hrows]
  rw [derivedColumns_eq_sources, derivedColumns_eq_sources, List.lookup_cons, List.lookup_cons,
    hpercent, lookup_filterMap_congr _ _ _ name hcells]

theorem derive_columnValues?_congr (ht : t.Rectangular) (ht' : t'.Rectangular)
    (hrows : t'.rows.map (·.configuration) = t.rows.map (·.configuration))
    (hown : t'.columnValues? name = t.columnValues? name)
    (hsource : name ∉ t.columns → ∀ source, (source, name) ∈ Column.sources →
      t'.columnValues? source = t.columnValues? source) :
    (derive t' o).table.columnValues? name = (derive t o).table.columnValues? name := by
  rw [derive_columnValues? t' o ht', derive_columnValues? t o ht, hown]
  cases hcells : t.columnValues? name with
  | some cells => rw [Option.some_or, Option.some_or]
  | none =>
    have hmissing := (t.columnValues?_eq_none_iff name).mp hcells
    rw [derivedColumns_lookup_congr t t' o name hrows (hsource hmissing)]

end View

end BenchReport
