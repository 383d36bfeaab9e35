import BenchReport.Proofs.Table.Reachable

namespace BenchReport

namespace Table

def baselineCells (t : Table) (o : DeriveOptions) (column : String) (r : Row) : List Double :=
  (t.rows.filter fun b => b.treeType = o.baseline ∧ b.sortedness = r.sortedness ∧
    b.readRatio = r.readRatio).filterMap (t.cell? column)

def derivedNames (t : Table) (o : DeriveOptions) : List String :=
  Column.sortednessPercent ::
    (if t.hasColumn Column.fastPathHits ∧ o.trialCount.isSome then [Column.fastPathHitRate]
      else []) ++
    (Column.speedups.filter fun c =>
      ∃ r ∈ t.rows, r.treeType = o.baseline ∧ (t.cell? c.1 r).isSome).map (·.2)

/-- What stands under a derived name in a row. -/
inductive DerivedCell (t : Table) (o : DeriveOptions) (r : Row) : String → Option Double → Prop
  | percent : DerivedCell t o r Column.sortednessPercent (some (r.sortedness * 100))
  | hitRate (n : UInt64) : o.trialCount = some n → DerivedCell t o r Column.fastPathHitRate
      ((t.cell? Column.fastPathHits r).map fun hits => hits * 100 / (n.toNat : Double))
  | speedup (source target : String) (cell : Option Double) :
      (source, target) ∈ Column.speedups →
      (∀ x, cell = some x ↔ t.baselineCells o source r ≠ [] ∧
        ∃ time, t.cell? source r = some time ∧ 0 < time ∧
          x = Double.mean (t.baselineCells o source r) / time) →
      DerivedCell t o r target cell

structure Extended (t : Table) (o : DeriveOptions) (r r' : Row) : Prop where
  treeType : r'.treeType = r.treeType
  sortedness : r'.sortedness = r.sortedness
  readRatio : r'.readRatio = r.readRatio
  values : ∃ cells, r'.values = r.values ++ cells ∧
    List.Forall₂ (t.DerivedCell o r) (t.derivedNames o) cells

end Table

namespace View

variable (t : Table) (o : DeriveOptions)

theorem hitRate?_eq (trials : Option UInt64) :
    hitRate? t trials = if t.hasColumn Column.fastPathHits then trials.map fun n r =>
      (t.cell? Column.fastPathHits r).map fun hits => hits * 100 / (n.toNat : Double) else none := by
  unfold hitRate? Table.hasColumn Table.cell?
  cases t.columnIndex? Column.fastPathHits with
  | none => rfl
  | some i => cases trials <;> rfl

theorem speedup?_eq (column : String) :
    speedup? t column o.baseline =
      if ∃ r ∈ t.rows, r.treeType = o.baseline ∧ (t.cell? column r).isSome then
        some fun r => speedup (t.baselineCells o column r) (t.cell? column r)
      else none := by
  unfold speedup? Table.baselineCells Table.cell?
  cases t.columnIndex? column with
  | none => simp
  | some i =>
    simp only [Option.bind_some, List.filterMap_filter, decide_eq_true_eq]
    rfl

theorem derivers_names_eq : (derivers t o).map (·.1) = t.derivedNames o := by
  have hrate : ((hitRate? t o.trialCount).toList.map fun cell =>
      ((Column.fastPathHitRate, cell) : Deriver)).map (·.1) =
      if t.hasColumn Column.fastPathHits ∧ o.trialCount.isSome then [Column.fastPathHitRate]
      else [] := by
    rw [hitRate?_eq]
    cases t.hasColumn Column.fastPathHits <;> cases o.trialCount <;> rfl
  rw [derivers, List.map_append, List.map_cons, hrate, Table.derivedNames, List.map_filterMap,
    ← List.filterMap_eq_map, List.filterMap_filter]
  congr 1
  apply List.filterMap_congr
  rintro ⟨source, target⟩ _
  simp only [speedup?_eq, decide_eq_true_eq]
  split_ifs <;> rfl

theorem derive_columns : (derive t o).table.columns = t.columns ++ t.derivedNames o := by
  rw [derive_table, derivers_names_eq]

theorem derivedCell_of_mem (d : Deriver) (hd : d ∈ derivers t o) (r : Row) :
    t.DerivedCell o r d.1 (d.2 r) := by
  rcases mem_derivers hd with rfl | ⟨cell, hrate, rfl⟩ | ⟨⟨source, target⟩, hpair, cell, hcell, rfl⟩
  · exact .percent
  · rw [hitRate?_eq] at hrate
    split_ifs at hrate
    obtain ⟨n, hn, rfl⟩ := Option.map_eq_some_iff.mp hrate
    exact .hitRate n hn
  · rw [speedup?_eq] at hcell
    split_ifs at hcell
    obtain rfl := Option.some.inj hcell
    apply Table.DerivedCell.speedup source target _ hpair
    intro x
    exact speedup_eq_some_iff _ _ x

theorem extend_extended (r : Row) : t.Extended o r (extend (derivers t o) r) := by
  refine ⟨rfl, rfl, rfl, (derivers t o).map (·.2 r), rfl, ?_⟩
  rw [← derivers_names_eq, List.forall₂_map_left_iff, List.forall₂_map_right_iff, List.forall₂_same]
  intro d hd
  exact derivedCell_of_mem t o d hd r

/-- A view has the columns of its table and behind them, in every row, one cell for each derived
name. The percent of a row is its sortedness times 100 even next to another column of that name. -/
theorem derive_appends_columns (ht : t.Reachable) :
    (derive t o).table.columns = t.columns ++ t.derivedNames o ∧
      List.Forall₂ (t.Extended o) t.rows (derive t o).table.rows ∧
      ∀ r ∈ (derive t o).table.rows, (derive t o).percent r = r.sortedness * 100 := by
  refine ⟨derive_columns t o, ?_, percent_derive t o ht.rectangular⟩
  rw [derive_table, List.forall₂_map_right_iff, List.forall₂_same]
  intro r _
  exact extend_extended t o r

def repeatedBaseline : Table :=
  (((Table.empty "trials.csv"
    [Column.fastPathHits, Column.insertTime, Column.sortednessPercent]).add
      ⟨"B", 0.5, 0.5, [some 10, some 4, some 7]⟩).add ⟨"B", 0.5, 0.5, [none, some 2, none]⟩).add
        ⟨"A", 0.5, 0.5, [some 20, some 6, none]⟩

theorem repeatedBaseline_columns :
    repeatedBaseline.Reachable ∧
      (derive repeatedBaseline ⟨some 40, "B"⟩).table.columns = [Column.fastPathHits,
        Column.insertTime, Column.sortednessPercent, Column.sortednessPercent,
        Column.fastPathHitRate, Column.insertSpeedup] ∧
      List.Forall₂ (repeatedBaseline.Extended ⟨some 40, "B"⟩) repeatedBaseline.rows
        (derive repeatedBaseline ⟨some 40, "B"⟩).table.rows ∧
      ∀ r ∈ (derive repeatedBaseline ⟨some 40, "B"⟩).table.rows,
        (derive repeatedBaseline ⟨some 40, "B"⟩).percent r = r.sortedness * 100 := by
  have hreachable : repeatedBaseline.Reachable := .add _ (.add _ (.add _ (.empty _ _)))
  have hnames : repeatedBaseline.derivedNames ⟨some 40, "B"⟩ =
      [Column.sortednessPercent, Column.fastPathHitRate, Column.insertSpeedup] := by decide +kernel
  obtain ⟨hcolumns, hrows, hpercent⟩ :=
    derive_appends_columns repeatedBaseline ⟨some 40, "B"⟩ hreachable
  rw [hnames] at hcolumns
  exact ⟨hreachable, hcolumns, hrows, hpercent⟩

end View

end BenchReport
