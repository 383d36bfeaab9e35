import BenchReport.Proofs.Csv.Decoder
import BenchReport.Proofs.Decimal.Numeral
import BenchReport.Proofs.Table.Fields

namespace BenchReport

open Text

namespace Double

structure IsFraction (x : Double) : Prop where
  finite : x.isFinite
  nonneg : 0 ≤ x
  le_one : x ≤ 1
  zero : x.magnitude = 0 → x = 0

end Double

namespace Table

structure Legible (t : Table) : Prop where
  columns : ∀ c ∈ t.columns, Trimmed c ∧ c ≠ ""
  labels : ∀ r ∈ t.rows, Trimmed r.treeType
  keys : ∀ r ∈ t.rows, r.sortedness.IsFraction ∧ r.readRatio.IsFraction

theorem readCell_isFinite (line : Nat) (column text : String) (x : Double)
    (h : readCell line column text = .ok (some x)) : x.isFinite := by
  unfold readCell at h
  split at h
  · simp at h
  · split at h
    · simp at h
    · simp only [Except.ok.injEq] at h
      split_ifs at h with hfinite
      obtain rfl := Option.some.inj h
      exact hfinite

theorem readFraction_isFraction (line : Nat) (column text : String) (x : Double)
    (h : readFraction line column text = .ok x) : x.IsFraction := by
  simp only [readFraction, bind_eq_ok_iff] at h
  obtain ⟨cell, hcell, h⟩ := h
  cases cell with
  | none => simp at h
  | some y =>
    have hfinite := readCell_isFinite line column text y hcell
    dsimp only at h
    split_ifs at h with hrange hzero
    · obtain rfl : 0 = x := Except.ok.inj h
      constructor <;> decide
    · obtain rfl : y = x := Except.ok.inj h
      exact ⟨hfinite, hrange.1, hrange.2, fun hm => absurd hm hzero⟩

theorem readCell_text (line : Nat) (column : String) (x : Double) :
    readCell line column x.text = .ok (if x.isFinite then some x else none) := by
  obtain ⟨y, hread, hfinite, hsame⟩ := x.read?_write
  have hne : x.text.isEmpty = false := by
    simpa [Double.text] using x.write_marks.1
  have htext : Numeral.read? x.text.toList = some y := by rw [Double.text, String.toList_ofList, hread]
  simp only [readCell, hne, htext, Bool.false_eq_true, if_false, hfinite]
  split_ifs with h
  · rw [hsame h]
  · rfl

theorem readFraction_text (line : Nat) (column : String) (x : Double) (h : x.IsFraction) :
    readFraction line column x.text = .ok x := by
  simp only [readFraction, readCell_text, h.finite, if_true, bind_eq_ok_iff]
  refine ⟨_, rfl, ?_⟩
  dsimp only
  rw [if_pos ⟨h.nonneg, h.le_one⟩]
  split_ifs with hzero
  · rw [h.zero hzero]
  · rfl

theorem cell_trimmed (cells : List String) (h : ∀ text ∈ cells, Trimmed text) (i : Nat) :
    Trimmed (cell cells i) := by
  unfold cell
  cases hi : cells[i]? with
  | none => rfl
  | some text => exact h text (List.mem_of_getElem? hi)

theorem layout_metrics (source : Path) (header : List String) (l : Layout)
    (h : layout source header = .ok l) : ∀ c ∈ l.metrics.map (·.2), c ∈ header ∧ c ≠ "" := by
  rw [layout_names source header l h]
  intro c hc
  obtain ⟨hmem, hne⟩ := List.mem_filter.mp hc
  exact ⟨List.diff_subset header Column.keys hmem, by simpa using hne⟩

theorem load_legible (source : Path) (file : Bytes) (t : Table) (h : load source file = .ok t) :
    t.Legible := by
  obtain ⟨header, lines, l, hdecode, hlayout, hrows, -, hcolumns⟩ := (load_eq_ok_iff source file t).mp h
  obtain ⟨hheader, hlines⟩ := Csv.decode_trimmed file header lines hdecode
  have hread (r : Row) (hr : r ∈ t.rows) : ∃ line ∈ lines, ∃ cells, line.cells = .ok cells ∧
      readRow l line.number cells = .ok r := exists_line l lines t.rows hrows r hr
  constructor
  · intro c hc
    rw [hcolumns] at hc
    obtain ⟨hmem, hne⟩ := layout_metrics source header l hlayout c hc
    exact ⟨hheader c hmem, hne⟩
  · intro r hr
    obtain ⟨line, hline, cells, hcells, hrow⟩ := hread r hr
    rw [((readRow_eq_ok_iff l line.number cells r).mp hrow).1]
    exact cell_trimmed cells (hlines line hline cells hcells) l.treeType
  · intro r hr
    obtain ⟨line, -, cells, -, hrow⟩ := hread r hr
    obtain ⟨-, hsortedness, hratio, -⟩ := (readRow_eq_ok_iff l line.number cells r).mp hrow
    exact ⟨readFraction_isFraction _ _ _ _ hsortedness, readFraction_isFraction _ _ _ _ hratio⟩

end Table

namespace View

theorem derivers_names (t : Table) (o : DeriveOptions) :
    ∀ d ∈ derivers t o, d.1 ∈ [Column.sortednessPercent, Column.fastPathHitRate,
      Column.insertSpeedup, Column.pointLookupSpeedup, Column.searchSpeedup] := by
  intro d hd
  rcases mem_derivers hd with rfl | ⟨cell, -, rfl⟩ | ⟨column, hcolumn, cell, -, rfl⟩
  · simp
  · simp
  · simp only [Column.speedups, List.mem_cons, List.not_mem_nil, or_false] at hcolumn
    rcases hcolumn with rfl | rfl | rfl <;> simp

theorem derive_legible (t : Table) (h : t.Legible) (o : DeriveOptions) :
    (derive t o).table.Legible := by
  have hnames : ∀ c ∈ [Column.sortednessPercent, Column.fastPathHitRate, Column.insertSpeedup,
      Column.pointLookupSpeedup, Column.searchSpeedup], Trimmed c ∧ c ≠ "" := by
    unfold Trimmed
    decide
  rw [derive_table]
  constructor
  · intro c hc
    rcases List.mem_append.mp hc with hc | hc
    · exact h.columns c hc
    · obtain ⟨d, hd, rfl⟩ := List.mem_map.mp hc
      exact hnames d.1 (derivers_names t o d hd)
  · intro r' hr'
    obtain ⟨r, hr, rfl⟩ := List.mem_map.mp hr'
    exact h.labels r hr
  · intro r' hr'
    obtain ⟨r, hr, rfl⟩ := List.mem_map.mp hr'
    exact h.keys r hr

end View

end BenchReport
