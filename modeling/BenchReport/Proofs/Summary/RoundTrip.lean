import BenchReport.Proofs.Summary
import BenchReport.Proofs.Table.Legible
import BenchReport.Summary.Export

namespace BenchReport

open Text

namespace Numeral

theorem Mark.isBlank (c : Char) (h : Mark c) : isBlank c = false := by
  rcases h with h | h
  · have hdigit := Char.isDigit_iff_toNat.mp h
    have hzero : '0'.toNat = 48 := rfl
    have hnine : '9'.toNat = 57 := rfl
    simp only [Text.isBlank, inRanges, blanks, List.any_eq_false, decide_eq_true_eq, List.mem_cons,
      List.not_mem_nil, or_false]
    rintro ⟨low, high⟩ hmem ⟨hlow, hhigh⟩
    simp only [Prod.mk.injEq] at hmem
    omega
  · simp only [List.mem_cons, List.not_mem_nil, or_false] at h
    rcases h with rfl | rfl | rfl | rfl | rfl | rfl | rfl <;> rfl

end Numeral

theorem Double.text_trimmed (x : Double) : Trimmed x.text := by
  apply trimmed_of_not_blank
  intro c hc
  rw [Double.text, String.toList_ofList] at hc
  exact Numeral.Mark.isBlank c (x.write_marks.2 c hc)

theorem toString_trimmed (n : Nat) : Trimmed (toString n) := by
  apply trimmed_of_not_blank
  intro c hc
  rw [Nat.toString_eq_ofList_toDigits, String.toList_ofList] at hc
  exact Numeral.Mark.isBlank c (.inl (Nat.isDigit_of_mem_toDigits (by decide) (by decide) hc))

namespace SummaryRow

def reread (r : SummaryRow) : Row :=
  ⟨r.configuration.treeType, r.configuration.sortedness, r.configuration.readRatio,
    (some (r.trials : Double) :: r.means).map (·.filter Double.isFinite)⟩

end SummaryRow

namespace Table

theorem readCell_toString (line : Nat) (column : String) (n : Nat) :
    readCell line column (toString n) = .ok ((some (n : Double)).filter Double.isFinite) := by
  have hne : (toString n).isEmpty = false := by
    rw [Nat.toString_eq_ofList_toDigits]
    simp [Nat.toDigits_ne_nil]
  have htext : Numeral.read? (toString n).toList = some (n : Double) := by
    rw [Nat.toString_eq_ofList_toDigits, String.toList_ofList, Numeral.read?_toDigits]
  simp only [readCell, hne, htext, Bool.false_eq_true, if_false, Option.filter_some]

theorem readCell_meanText (line : Nat) (column : String) (mean : Option Double) :
    readCell line column (Summary.meanText mean) = .ok (mean.filter Double.isFinite) := by
  cases mean with
  | none => rfl
  | some x => rw [Summary.meanText, readCell_text, Option.filter_some]

theorem readMetrics_zipIdx (line : Nat) (done texts names : List String)
    (values : List (Option Double)) (hlength : names.length = texts.length)
    (h : List.Forall₂ (fun text v => ∀ column, readCell line column text = .ok v) texts values) :
    readMetrics line (done ++ texts) ((names.zipIdx done.length).map fun c => (c.2, c.1)) =
      .ok values := by
  induction h generalizing done names with
  | nil =>
    rw [List.length_eq_zero_iff.mp hlength]
    rfl
  | @cons text v texts values hv _ ih =>
    obtain ⟨name, names, rfl⟩ := List.exists_cons_of_length_eq_add_one hlength
    have hcell : cell (done ++ text :: texts) done.length = text := by simp [cell]
    have hrest := ih (done ++ [text]) names (Nat.succ.inj hlength)
    rw [List.append_assoc, List.length_append] at hrest
    simp only [List.zipIdx_cons, List.map_cons, readMetrics, hcell, hv, bind_eq_ok_iff,
      pure_eq_ok_iff]
    exact ⟨v, rfl, values, hrest, rfl⟩

end Table

namespace Summary

open Table

def csvLayout (columns : List String) : Layout :=
  ⟨0, 1, 2, (("Trials" :: columns).zipIdx 3).map fun c => (c.2, c.1)⟩

theorem layout_csvHeader (path : Path) (s : Summary) (h : ∀ c ∈ s.columns, c ≠ "") :
    layout path s.csvHeader = .ok (csvLayout s.columns) := by
  have hkept : (("Trials" :: s.columns).zipIdx 3).filter
      (fun c => !([0, 1, 2] : List Nat).contains c.2 && !c.1.isEmpty) =
        ("Trials" :: s.columns).zipIdx 3 := by
    rw [List.filter_eq_self]
    rintro ⟨name, i⟩ hmem
    obtain ⟨hlow, -, -⟩ := List.mem_zipIdx hmem
    have hname : name ≠ "" := by
      rcases List.mem_cons.mp (List.fst_mem_of_mem_zipIdx hmem) with rfl | hmem
      · decide
      · exact h name hmem
    simp only [Bool.and_eq_true, Bool.not_eq_true', List.contains_eq_mem, decide_eq_false_iff_not,
      String.isEmpty_eq_false_iff, List.mem_cons, List.not_mem_nil, or_false]
    exact ⟨by omega, hname⟩
  have hmetrics : metricColumns [0, 1, 2] s.csvHeader = (csvLayout s.columns).metrics := by
    rw [metricColumns, csvHeader, csvLayout]
    exact congrArg (List.map fun c => (c.2, c.1)) hkept
  simp only [layout, bind_eq_ok_iff, pure_eq_ok_iff]
  exact ⟨0, rfl, 1, rfl, 2, rfl, by rw [hmetrics]; rfl⟩

theorem readRow_csvRow (columns : List String) (line : Nat) (r : SummaryRow)
    (hs : r.configuration.sortedness.IsFraction) (hr : r.configuration.readRatio.IsFraction)
    (hlength : r.means.length = columns.length) :
    readRow (csvLayout columns) line (csvRow r) = .ok r.reread := by
  rw [readRow_eq_ok_iff]
  refine ⟨rfl, readFraction_text line _ _ hs, readFraction_text line _ _ hr, ?_⟩
  apply readMetrics_zipIdx line [_, _, _] (toString r.trials :: r.means.map meanText)
  · simp [hlength]
  · simp only [SummaryRow.reread, List.map_cons]
    refine .cons (fun column => readCell_toString line column r.trials) ?_
    rw [List.forall₂_map_left_iff, List.forall₂_map_right_iff, List.forall₂_same]
    exact fun mean _ column => readCell_meanText line column mean

theorem readLines_csvRow (columns : List String) (lines : List Csv.Line) (rows : List SummaryRow)
    (hlines : List.Forall₂ (fun line r => line.cells = .ok (csvRow r)) lines rows)
    (hrows : ∀ r ∈ rows, r.configuration.sortedness.IsFraction ∧
      r.configuration.readRatio.IsFraction ∧ r.means.length = columns.length) :
    readLines (csvLayout columns) lines = .ok (rows.map (·.reread)) := by
  induction hlines with
  | nil => rfl
  | @cons line r lines rows hline _ ih =>
    obtain ⟨hs, hr, hlength⟩ := hrows r List.mem_cons_self
    have hrest := ih fun q hq => hrows q (List.mem_cons_of_mem r hq)
    have hfirst : readLine (csvLayout columns) line = .ok r.reread := by
      rw [readLine_eq_ok_iff]
      exact ⟨_, hline, readRow_csvRow columns line.number r hs hr hlength⟩
    simp only [readLines, bind_eq_ok_iff, pure_eq_ok_iff]
    exact ⟨_, hfirst, _, hrest, rfl⟩

theorem toCsv_no_mark (s : Summary) : Csv.byteOrderMark.isPrefixOf (toBytes s.toCsv) = false := by
  -- the text starts with the name of the first key, whatever the columns are
  have hstart : ∃ cs, s.toCsv.toList = 'T' :: cs := by
    rw [toCsv, Csv.write, String.toList_ofList]
    exact ⟨_, rfl⟩
  obtain ⟨cs, hcs⟩ := hstart
  rw [toBytes, hcs]
  rfl

theorem mem_csvHeader_trimmed (s : Summary) (h : ∀ c ∈ s.columns, Trimmed c) :
    ∀ name ∈ s.csvHeader, Trimmed name := by
  have hkeys : ∀ name ∈ [Column.treeType, Column.sortedness, Column.readRatio, "Trials"],
      Trimmed name := by
    unfold Trimmed
    decide
  exact List.forall_mem_append.mpr ⟨hkeys, h⟩

theorem mem_csvRow_trimmed (r : SummaryRow) (h : Trimmed r.configuration.treeType) :
    ∀ text ∈ csvRow r, Trimmed text := by
  have hmean (mean : Option Double) : Trimmed (meanText mean) := by
    cases mean with
    | none => rfl
    | some x => exact x.text_trimmed
  rw [csvRow, List.forall_mem_append]
  constructor
  · simp only [List.forall_mem_cons, List.not_mem_nil, false_implies, implies_true, and_true]
    exact ⟨h, Double.text_trimmed _, Double.text_trimmed _, toString_trimmed _⟩
  · exact List.forall_mem_map.mpr fun mean _ => hmean mean

theorem row_legible (v : View) (h : v.table.Legible) (r : SummaryRow) (hr : r ∈ (ofView v).rows) :
    Trimmed r.configuration.treeType ∧ r.configuration.sortedness.IsFraction ∧
      r.configuration.readRatio.IsFraction ∧ r.means.length = v.table.columns.length := by
  obtain ⟨hmem, hrow⟩ := (mem_rows_iff v r).mp hr
  obtain ⟨q, hq, hconfiguration⟩ := List.mem_map.mp hmem
  have hlength : r.means.length = v.table.columns.length := by
    rw [hrow]
    simp [rowOf]
  rw [← hconfiguration]
  exact ⟨h.labels q hq, (h.keys q hq).1, (h.keys q hq).2, hlength⟩

theorem load_toCsv_of_legible (v : View) (h : v.table.Legible) (path : Path) :
    load path (toBytes (ofView v).toCsv) =
      .ok ⟨path, "Trials" :: (ofView v).columns, (ofView v).rows.map (·.reread)⟩ := by
  have hlegible := row_legible v h
  have hcolumns : ∀ c ∈ (ofView v).columns, Trimmed c ∧ c ≠ "" := h.columns
  obtain ⟨lines, hdecode, hlines⟩ := Csv.decode_write (ofView v).csvHeader
    ((ofView v).rows.map csvRow) (by simp [csvHeader]) (toCsv_no_mark (ofView v))
    (mem_csvHeader_trimmed (ofView v) fun c hc => (hcolumns c hc).1)
    (List.forall_mem_map.mpr fun r hr => by
      obtain ⟨hlabel, -, -, hlength⟩ := hlegible r hr
      exact ⟨by simp [csvRow, csvHeader, hlength, ofView_eq_map], mem_csvRow_trimmed r hlabel⟩)
  rw [List.forall₂_map_right_iff] at hlines
  refine (load_eq_ok_iff _ _ _).mpr ⟨_, lines, csvLayout (ofView v).columns, hdecode, ?_, ?_, rfl, ?_⟩
  · exact layout_csvHeader path (ofView v) fun c hc => (hcolumns c hc).2
  · refine readLines_csvRow _ lines _ hlines fun r hr => ?_
    obtain ⟨-, hsortedness, hratio, hlength⟩ := hlegible r hr
    exact ⟨hsortedness, hratio, hlength⟩
  · simp [csvLayout, Function.comp_def]

/-- Exporting and loading keeps the columns, the configurations and all finite means bit by bit. The
counts come back as numbers; they are words of 64 bits, so none of them counts as infinite. -/
theorem load_toCsv (source : Path) (file : Bytes) (t : Table) (h : load source file = .ok t)
    (o : DeriveOptions) (path : Path) :
    load path (toBytes (ofView (View.derive t o)).toCsv) =
        .ok ⟨path, "Trials" :: (ofView (View.derive t o)).columns,
          (ofView (View.derive t o)).rows.map (·.reread)⟩ ∧
      ∀ r ∈ (ofView (View.derive t o)).rows, r.trials < 2 ^ 64 →
        r.reread.values = some (r.trials : Double) :: r.means.map (·.filter Double.isFinite) := by
  constructor
  · exact load_toCsv_of_legible _ (View.derive_legible t (load_legible source file t h) o) path
  · intro r _ hcount
    have hfinite : (r.trials : Double).isFinite := Double.ofNat_isFinite r.trials hcount
    rw [SummaryRow.reread, List.map_cons, Option.filter_some, if_pos hfinite]

def quotedFile : Bytes :=
  toBytes "TreeType,Sortedness,ReadRatio,\"a,b\",TreeType\n\"x, \"\"y\"\"\",-0,0.25,1e-3,\n"

theorem quotedFile_load_toCsv :
    load "in.csv" quotedFile = .ok ⟨"in.csv", ["a,b", "TreeType"],
        [⟨"x, \"y\"", 0, 0.25, [some 0.001, none]⟩]⟩ ∧
      load "out.csv" (toBytes (ofView (View.derive ⟨"in.csv", ["a,b", "TreeType"],
          [⟨"x, \"y\"", 0, 0.25, [some 0.001, none]⟩]⟩ {})).toCsv) =
        .ok ⟨"out.csv", ["Trials", "a,b", "TreeType", "SortednessPercent"],
          [⟨"x, \"y\"", 0, 0.25, [some 1, some 0.001, none, some 0]⟩]⟩ ∧
      ∀ r ∈ (ofView (View.derive ⟨"in.csv", ["a,b", "TreeType"],
          [⟨"x, \"y\"", 0, 0.25, [some 0.001, none]⟩]⟩ {})).rows, r.trials < 2 ^ 64 ∧
        r.reread.values = some (r.trials : Double) :: r.means.map (·.filter Double.isFinite) := by
  have hload : load "in.csv" quotedFile = .ok ⟨"in.csv", ["a,b", "TreeType"],
      [⟨"x, \"y\"", 0, 0.25, [some 0.001, none]⟩]⟩ := by decide +kernel
  have htrials : ∀ r ∈ (ofView (View.derive ⟨"in.csv", ["a,b", "TreeType"],
      [⟨"x, \"y\"", 0, 0.25, [some 0.001, none]⟩]⟩ {})).rows, r.trials < 2 ^ 64 := by
    decide +kernel
  obtain ⟨htext, hvalues⟩ := load_toCsv "in.csv" quotedFile _ hload {} "out.csv"
  refine ⟨hload, ?_, fun r hr => ⟨htrials r hr, hvalues r hr (htrials r hr)⟩⟩
  rw [htext]
  decide +kernel

end Summary

end BenchReport
