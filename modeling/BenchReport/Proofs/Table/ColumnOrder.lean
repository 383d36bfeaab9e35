import BenchReport.Proofs.Chart.OwnData
import BenchReport.Proofs.Table.SameFields
import Mathlib.Data.Fin.VecNotation
import Mathlib.Data.Fintype.Basic
import Mathlib.Data.List.FinRange
import Mathlib.Data.List.OfFn

namespace BenchReport

variable {n m : ℕ}

def Spread {α : Type} (σ : Fin n ↪ Fin m) (as bs : List α) : Prop :=
  ∃ (f : Fin n → α) (g : Fin m → α), as = List.ofFn f ∧ bs = List.ofFn g ∧ ∀ i, g (σ i) = f i

theorem Spread.length_eq {α β : Type} {σ : Fin n ↪ Fin m} {as bs : List α} {cs ds : List β}
    (h : Spread σ as bs) (h' : Spread σ cs ds) : cs.length = as.length ∧ ds.length = bs.length := by
  obtain ⟨_, _, rfl, rfl, -⟩ := h
  obtain ⟨_, _, rfl, rfl, -⟩ := h'
  simp only [List.length_ofFn, and_self]

namespace Table

/-- The same columns in other places, with columns that have no name between them. -/
structure Relaid (σ : Fin n ↪ Fin m) (header header' : List String) (lines lines' : List Csv.Line) :
    Prop where
  header : Spread σ header header'
  unnamed : ∀ j, j ∉ Set.range σ → header'[(j : ℕ)]? = some ""
  lines : List.Forall₂ (fun line line' => ∃ cells cells', line.cells = .ok cells ∧
    line'.cells = .ok cells' ∧ Spread σ cells cells') lines lines'

theorem distinctNames_ofFn_iff (f : Fin n → String) :
    DistinctNames (List.ofFn f) ↔ ∀ i j, f i = f j → f i ≠ "" → i = j := by
  rw [DistinctNames, List.Nodup, List.pairwise_filter, List.pairwise_ofFn]
  simp only [decide_eq_true_eq]
  constructor
  · intro h i j heq hne
    by_contra hij
    rcases lt_or_gt_of_ne hij with hlt | hlt
    · exact h hlt hne (heq ▸ hne) heq
    · exact h hlt (heq ▸ hne) hne heq.symm
  · intro h i j hlt hne _ heq
    exact hlt.ne (h i j heq hne)

section Spread

variable {σ : Fin n ↪ Fin m} {header header' : List String}

theorem sameHeader_of_spread (hheader : Spread σ header header')
    (hunnamed : ∀ j, j ∉ Set.range σ → header'[(j : ℕ)]? = some "")
    (hdistinct : DistinctNames header) : SameHeader header header' := by
  obtain ⟨f, g, rfl, rfl, hplace⟩ := hheader
  have hnamed (j : Fin m) (hj : g j ≠ "") : ∃ i, σ i = j := by
    by_contra hout
    simpa [hj] using hunnamed j hout
  refine ⟨hdistinct, ?_, ?_⟩
  · rw [distinctNames_ofFn_iff] at hdistinct ⊢
    intro j k heq hne
    obtain ⟨i, rfl⟩ := hnamed j hne
    obtain ⟨i', rfl⟩ := hnamed k (heq ▸ hne)
    rw [hplace, hplace] at heq
    rw [hdistinct i i' heq (hplace i ▸ hne)]
  · intro name hne
    simp only [List.mem_ofFn]
    constructor
    · rintro ⟨j, rfl⟩
      obtain ⟨i, rfl⟩ := hnamed j hne
      exact ⟨i, (hplace i).symm⟩
    · rintro ⟨i, rfl⟩
      exact ⟨σ i, hplace i⟩

theorem sameFields_of_spread {cells cells' : List String} (hheader : Spread σ header header')
    (hunnamed : ∀ j, j ∉ Set.range σ → header'[(j : ℕ)]? = some "")
    (hcells : Spread σ cells cells') : SameFields (header.zip cells) (header'.zip cells') := by
  obtain ⟨f, g, rfl, rfl, hplace⟩ := hheader
  obtain ⟨c, d, rfl, rfl, hcell⟩ := hcells
  intro name text hne
  simp only [List.ofFn_eq_map, List.zip_map', List.mem_map, List.mem_finRange, true_and,
    Prod.mk.injEq]
  constructor
  · rintro ⟨j, rfl, rfl⟩
    have hrange : j ∈ Set.range σ := by
      by_contra hout
      simpa [hne] using hunnamed j hout
    obtain ⟨i, rfl⟩ := hrange
    exact ⟨i, (hplace i).symm, (hcell i).symm⟩
  · rintro ⟨i, rfl, rfl⟩
    exact ⟨σ i, hplace i, hcell i⟩

end Spread

section Relaid

variable {σ : Fin n ↪ Fin m} {source : Path} {header header' : List String} {l l' : Layout}

theorem readLine_of_spread (hl : layout source header = .ok l) (hl' : layout source header' = .ok l')
    (hheader : Spread σ header header')
    (hunnamed : ∀ j, j ∉ Set.range σ → header'[(j : ℕ)]? = some "")
    (hdistinct : DistinctNames header) (line line' : Csv.Line) (cells cells' : List String)
    (hline : line.cells = .ok cells) (hline' : line'.cells = .ok cells')
    (hcells : Spread σ cells cells') (r : Row) (hr : readLine l line = .ok r) :
    ∃ r', readLine l' line' = .ok r' ∧ SameCells (metricNames header) (metricNames header') r r' := by
  have hsame := sameHeader_of_spread hheader hunnamed hdistinct
  have hfields := sameFields_of_spread hheader hunnamed hcells
  have hlengths := hheader.length_eq hcells
  obtain ⟨_, hread, hrow⟩ := (readLine_eq_ok_iff l line r).mp hr
  obtain rfl := Except.ok.inj (hline.symm.trans hread)
  obtain ⟨hreadable, hdescribes⟩ := (readRow_of_layout hl line.number cells hlengths.1 r).mp hrow
  have hreadable' := readable_of_sameFields hsame hlengths.1 hlengths.2 hfields hreadable
  obtain ⟨r', hrow'⟩ := (exists_readRow_iff hl' line'.number cells' hlengths.2).mpr hreadable'
  have hdescribes' := ((readRow_of_layout hl' line'.number cells' hlengths.2 r').mp hrow').2
  exact ⟨r', (readLine_eq_ok_iff l' line' r').mpr ⟨cells', hline', hrow'⟩,
    sameCells_of_sameFields hsame hlengths.1 hlengths.2 hfields hreadable hdescribes hdescribes'⟩

theorem readLines_of_relaid (hl : layout source header = .ok l)
    (hl' : layout source header' = .ok l') (hdistinct : DistinctNames header)
    {lines lines' : List Csv.Line} (hrelaid : Relaid σ header header' lines lines')
    (rows : List Row) (hrows : readLines l lines = .ok rows) :
    ∃ rows', readLines l' lines' = .ok rows' ∧
      List.Forall₂ (SameCells (metricNames header) (metricNames header')) rows rows' := by
  obtain ⟨hheader, hunnamed, hlines⟩ := hrelaid
  rw [readLines_eq_ok_iff] at hrows
  simp only [readLines_eq_ok_iff]
  induction hlines generalizing rows with
  | nil =>
    obtain rfl := List.forall₂_nil_left_iff.mp hrows
    exact ⟨[], .nil, .nil⟩
  | cons hcells _ ih =>
    obtain ⟨r, rows, hr, hrest, rfl⟩ := List.forall₂_cons_left_iff.mp hrows
    obtain ⟨cells, cells', hline, hline', hspread⟩ := hcells
    obtain ⟨r', hr', hsame⟩ := readLine_of_spread hl hl' hheader hunnamed hdistinct _ _ cells cells'
      hline hline' hspread r hr
    obtain ⟨rows', hrows', hsames⟩ := ih rows hrest
    exact ⟨r' :: rows', .cons hr' hrows', .cons hsame hsames⟩

theorem ofLines_of_relaid {lines lines' : List Csv.Line} (t : Table)
    (haccepted : ofLines source header lines = .ok t) (hdistinct : DistinctNames header)
    (hrelaid : Relaid σ header header' lines lines') :
    ∃ t', ofLines source header' lines' = .ok t' ∧
      (∀ name, name ∈ t'.columns ↔ name ∈ t.columns) ∧
      List.Forall₂ (SameCells t.columns t'.columns) t.rows t'.rows := by
  have hsame := sameHeader_of_spread hrelaid.header hrelaid.unnamed hdistinct
  obtain ⟨l, hl, hrows, -, hcolumns⟩ := (ofLines_eq_ok_iff source header lines t).mp haccepted
  rw [layout_names source header l hl] at hcolumns
  have hkeys : ∀ key ∈ Column.keys, key ∈ header' := by
    intro key hkey
    have hne : key ≠ "" := by
      rintro rfl
      exact absurd hkey (by decide)
    exact (hsame.names key hne).mpr ((exists_layout_iff source header).mp ⟨l, hl⟩ key hkey)
  obtain ⟨l', hl'⟩ := (exists_layout_iff source header').mpr hkeys
  obtain ⟨rows', hrows', hsames⟩ := readLines_of_relaid hl hl' hdistinct hrelaid t.rows hrows
  refine ⟨⟨source, metricNames header', rows'⟩, ?_, ?_, ?_⟩
  · exact (ofLines_eq_ok_iff source header' lines' _).mpr
      ⟨l', hl', hrows', rfl, (layout_names source header' l' hl').symm⟩
  · intro name
    rw [hcolumns]
    exact hsame.mem_metricNames_iff name
  · rw [hcolumns]
    exact hsames

/-- Columns may stand in any order, and between them any that have no name: the file is accepted all
the same, its rows keep their keys and each name its cells, and all charts are equal. -/
theorem column_order_irrelevant (source : Path) (header header' : List String)
    (lines lines' : List Csv.Line) (t : Table) (σ : Fin n ↪ Fin m)
    (haccepted : ofLines source header lines = .ok t) (hdistinct : DistinctNames header)
    (hrelaid : Relaid σ header header' lines lines') :
    ∃ t', ofLines source header' lines' = .ok t' ∧
      t'.rows.map (·.configuration) = t.rows.map (·.configuration) ∧
      (∀ name, t'.columnValues? name = t.columnValues? name) ∧
      ∀ o spec, Chart.build (View.derive t' o) spec = Chart.build (View.derive t o) spec := by
  obtain ⟨t', haccepted', hnames, hrows⟩ := ofLines_of_relaid t haccepted hdistinct hrelaid
  have hconfigurations : t'.rows.map (·.configuration) = t.rows.map (·.configuration) := by
    rw [← List.forall₂_eq_eq_eq, List.forall₂_map_left_iff, List.forall₂_map_right_iff]
    exact (hrows.imp fun r r' h => h.configuration).flip
  have hvalues := columnValues?_of_sameCells t t' hnames hrows
  have ht := ofLines_rectangular source header lines t haccepted
  have ht' := ofLines_rectangular source header' lines' t' haccepted'
  refine ⟨t', haccepted', hconfigurations, hvalues, ?_⟩
  intro o spec
  apply Chart.build_congr t t' o spec ht ht' hconfigurations
  exact View.derive_columnValues?_congr t t' o spec.metric ht ht' hconfigurations
    (hvalues spec.metric) fun _ source _ => hvalues source

theorem noted_times_relaid :
    ∃ t t', ofLines "times.csv" ["TreeType", "Sortedness", "ReadRatio", "InsertTime"]
        [⟨2, .ok ["LasTree", "0.5", "0.25", "8"]⟩] = .ok t ∧
      ofLines "times.csv" ["InsertTime", "", "TreeType", "ReadRatio", "Sortedness"]
        [⟨2, .ok ["8", "n/a", "LasTree", "0.25", "0.5"]⟩] = .ok t' ∧
      t.columnValues? "InsertTime" = some [some 8] ∧ t'.columnValues? "InsertTime" = some [some 8] := by
  let σ : Fin 4 ↪ Fin 5 := ⟨![2, 4, 3, 0], by decide⟩
  have hheader : Spread σ ["TreeType", "Sortedness", "ReadRatio", "InsertTime"]
      ["InsertTime", "", "TreeType", "ReadRatio", "Sortedness"] :=
    ⟨!["TreeType", "Sortedness", "ReadRatio", "InsertTime"],
      !["InsertTime", "", "TreeType", "ReadRatio", "Sortedness"], rfl, rfl, by decide⟩
  have hcells : Spread σ ["LasTree", "0.5", "0.25", "8"] ["8", "n/a", "LasTree", "0.25", "0.5"] :=
    ⟨!["LasTree", "0.5", "0.25", "8"], !["8", "n/a", "LasTree", "0.25", "0.5"], rfl, rfl, by decide⟩
  have hunnamed : ∀ j, j ∉ Set.range σ →
      ["InsertTime", "", "TreeType", "ReadRatio", "Sortedness"][(j : ℕ)]? = some "" := by decide
  let t : Table := ⟨"times.csv", ["InsertTime"], [⟨"LasTree", 0.5, 0.25, [some 8]⟩]⟩
  have ht : ofLines "times.csv" ["TreeType", "Sortedness", "ReadRatio", "InsertTime"]
      [⟨2, .ok ["LasTree", "0.5", "0.25", "8"]⟩] = .ok t := by decide +kernel
  have hcolumn : t.columnValues? "InsertTime" = some [some 8] := by decide
  obtain ⟨t', ht', -, hvalues, -⟩ := column_order_irrelevant _ _ _ _
    [⟨2, .ok ["8", "n/a", "LasTree", "0.25", "0.5"]⟩] t σ ht (by decide)
    ⟨hheader, hunnamed, .cons ⟨_, _, rfl, rfl, hcells⟩ .nil⟩
  exact ⟨t, t', ht, ht', hcolumn, (hvalues "InsertTime").trans hcolumn⟩

end Relaid

end Table

end BenchReport
