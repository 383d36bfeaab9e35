import BenchReport.Proofs.Except
import BenchReport.Proofs.View
import BenchReport.Table.Loading
import Mathlib.Data.List.Forall2

namespace BenchReport

namespace Table

theorem readMetrics_eq_ok_iff (line : Nat) (cells : List String) (metrics : List (Nat × String))
    (values : List (Option Double)) :
    readMetrics line cells metrics = .ok values ↔
      List.Forall₂ (fun m v => readCell line m.2 (cell cells m.1) = .ok v) metrics values := by
  induction metrics generalizing values with
  | nil => simp [readMetrics, eq_comm]
  | cons m metrics ih =>
    simp only [readMetrics, bind_eq_ok_iff, pure_eq_ok_iff]
    constructor
    · rintro ⟨v, hv, vs, hvs, rfl⟩
      exact .cons hv ((ih vs).mp hvs)
    · rintro (_ | @⟨_, v, _, vs, hv, hvs⟩)
      exact ⟨v, hv, vs, (ih vs).mpr hvs, rfl⟩

theorem readRow_eq_ok_iff (l : Layout) (line : Nat) (cells : List String) (r : Row) :
    readRow l line cells = .ok r ↔ r.treeType = cell cells l.treeType ∧
      readFraction line Column.sortedness (cell cells l.sortedness) = .ok r.sortedness ∧
      readFraction line Column.readRatio (cell cells l.readRatio) = .ok r.readRatio ∧
      readMetrics line cells l.metrics = .ok r.values := by
  simp only [readRow, bind_eq_ok_iff, pure_eq_ok_iff]
  constructor
  · rintro ⟨s, hs, q, hq, vs, hvs, rfl⟩
    exact ⟨rfl, hs, hq, hvs⟩
  · rintro ⟨ht, hs, hq, hvs⟩
    refine ⟨_, hs, _, hq, _, hvs, ?_⟩
    rw [← ht]

theorem readLine_eq_ok_iff (l : Layout) (line : Csv.Line) (r : Row) :
    readLine l line = .ok r ↔ ∃ cells, line.cells = .ok cells ∧ readRow l line.number cells = .ok r := by
  unfold readLine
  split <;> simp_all

theorem readLines_eq_ok_iff (l : Layout) (lines : List Csv.Line) (rows : List Row) :
    readLines l lines = .ok rows ↔ List.Forall₂ (fun line r => readLine l line = .ok r) lines rows := by
  induction lines generalizing rows with
  | nil => simp [readLines, eq_comm]
  | cons line lines ih =>
    simp only [readLines, bind_eq_ok_iff, pure_eq_ok_iff]
    constructor
    · rintro ⟨r, hr, rs, hrs, rfl⟩
      exact .cons hr ((ih rs).mp hrs)
    · rintro (_ | @⟨_, r, _, rs, hr, hrs⟩)
      exact ⟨r, hr, rs, (ih rs).mpr hrs, rfl⟩

theorem ofLines_eq_ok_iff (source : Path) (header : List String) (lines : List Csv.Line) (t : Table) :
    ofLines source header lines = .ok t ↔ ∃ l, layout source header = .ok l ∧
      readLines l lines = .ok t.rows ∧ t.source = source ∧ t.columns = l.metrics.map (·.2) := by
  simp only [ofLines, bind_eq_ok_iff, pure_eq_ok_iff]
  constructor
  · rintro ⟨l, hl, rows, hrows, rfl⟩
    exact ⟨l, hl, hrows, rfl, rfl⟩
  · rintro ⟨l, hl, hrows, hs, hc⟩
    refine ⟨l, hl, _, hrows, ?_⟩
    rw [← hs, ← hc]

theorem load_eq_ok_iff (source : Path) (file : Bytes) (t : Table) :
    load source file = .ok t ↔ ∃ header lines l, Csv.decode file = (.ok header, lines) ∧
      layout source header = .ok l ∧ readLines l lines = .ok t.rows ∧
      t.source = source ∧ t.columns = l.metrics.map (·.2) := by
  unfold load
  split
  · rename_i fault lines hd
    simp [hd]
  · rename_i header lines hd
    rw [ofLines_eq_ok_iff, hd]
    simp

theorem exists_line (l : Layout) (lines : List Csv.Line) (rows : List Row)
    (h : readLines l lines = .ok rows) (r : Row) (hr : r ∈ rows) :
    ∃ line ∈ lines, ∃ cells, line.cells = .ok cells ∧ readRow l line.number cells = .ok r := by
  induction (readLines_eq_ok_iff l lines rows).mp h with
  | nil => simp at hr
  | @cons line q lines rows hline hlines ih =>
    rcases List.mem_cons.mp hr with rfl | hr
    · exact ⟨line, List.mem_cons_self, (readLine_eq_ok_iff l line r).mp hline⟩
    · obtain ⟨line', hmem, h'⟩ := ih ((readLines_eq_ok_iff l lines rows).mpr hlines) hr
      exact ⟨line', List.mem_cons_of_mem _ hmem, h'⟩

theorem ofLines_rectangular (source : Path) (header : List String) (lines : List Csv.Line) (t : Table)
    (h : ofLines source header lines = .ok t) : t.Rectangular := by
  obtain ⟨l, -, hrows, -, hcolumns⟩ := (ofLines_eq_ok_iff source header lines t).mp h
  intro r hr
  obtain ⟨line, -, cells, -, hrow⟩ := exists_line l lines t.rows hrows r hr
  obtain ⟨-, -, -, hvalues⟩ := (readRow_eq_ok_iff l line.number cells r).mp hrow
  rw [hcolumns, List.length_map]
  exact ((readMetrics_eq_ok_iff _ _ _ _).mp hvalues).length_eq.symm

theorem load_rectangular (source : Path) (file : Bytes) (t : Table)
    (h : load source file = .ok t) : t.Rectangular := by
  unfold load at h
  split at h
  · cases h
  · exact ofLines_rectangular _ _ _ t h

end Table

end BenchReport
