import BenchReport.Proofs.Csv.Starts
import BenchReport.Proofs.Table.Faults

namespace BenchReport

def DataFault.line? : DataFault → Option Nat
  | .invalidValue line _ _ => some line
  | .outOfRange line _ _ => some line
  | _ => none

namespace Table

theorem KeyFault.line {line : Nat} {column text : String} {f : DataFault}
    (h : KeyFault line column text f) : f.line? = some line := by
  cases h <;> rfl

theorem CellFault.line {line : Nat} {fields : List (String × String)} {f : DataFault}
    (h : CellFault line fields f) : f.line? = some line := by
  cases h with
  | sortedness _ _ _ hfault => exact hfault.line
  | readRatio _ _ _ _ _ _ hfault => exact hfault.line
  | metric => rfl

theorem FaultAt.line {source : Path} {records : List Csv.Record} {k n : Nat} {f : DataFault}
    (h : FaultAt source records k f) (hline : f.line? = some n) :
    k ≠ 0 ∧ ∃ r, records[k]? = some r ∧ r.start.line = n := by
  cases h with
  | noRecord => cases hline
  | encoding => cases hline
  | missingColumn => cases hline
  | record h before r after header f haccepted hfault =>
    refine ⟨Nat.succ_ne_zero _, r, ?_, ?_⟩
    · rw [List.getElem?_cons_succ, List.getElem?_append_right (Nat.le_refl _), Nat.sub_self]
      rfl
    · cases hfault with
      | record fault => cases hline
      | cell cells f _ _ hcell => exact Option.some.inj (hcell.line.symm.trans hline)

/-- The reported line counts the line feeds up to the line break that ends the record above the one
with the fault. It is the line on which this one starts unless a line feed is skipped before it. -/
theorem load_reports_line (source : Path) (file : Bytes) (f : DataFault) (n : Nat)
    (h : load source file = .error f) (hline : f.line? = some n) :
    ∃ k p above b skipped, FaultAt source (Csv.split file) k f ∧
      (∀ q, Csv.StartsAt file k q ↔ q = p) ∧ Csv.Gap (file.take p) above b skipped ∧
      n = 1 + (above ++ [b]).count Csv.Scanner.lineFeed ∧
      Csv.lineAt file p = n + skipped.count Csv.Scanner.lineFeed ∧
      (n = Csv.lineAt file p ↔ Csv.Scanner.lineFeed ∉ skipped) := by
  obtain ⟨k, hfault⟩ := exists_faultAt source file f h
  obtain ⟨hk, r, hr, hstart⟩ := hfault.line hline
  obtain ⟨p, hp, above, b, skipped, hgap, hcount⟩ := Csv.exists_startsAt file k r hk hr
  rw [hstart] at hcount
  have hlineAt : Csv.lineAt file p = n + skipped.count Csv.Scanner.lineFeed := by
    rw [Csv.lineAt, hgap.bytes_eq, hcount, Nat.add_assoc, ← List.count_append, List.append_assoc,
      List.singleton_append]
  refine ⟨k, p, above, b, skipped, hfault, ?_, hgap, hcount, hlineAt, ?_⟩
  · intro q
    constructor
    · intro hq
      exact hq.unique hk hp
    · rintro rfl
      exact hp
  · rw [hlineAt, ← List.count_eq_zero]
    omega

def returnsFile : Bytes :=
  Text.toBytes "TreeType,Sortedness,ReadRatio,InsertTime\r\n\nA,0.5,2,1\r\n"

theorem returnsFile_line :
    load "in.csv" returnsFile = .error (.outOfRange 1 Column.readRatio 2) ∧
      ∃ k p above b skipped,
        FaultAt "in.csv" (Csv.split returnsFile) k (.outOfRange 1 Column.readRatio 2) ∧
        (∀ q, Csv.StartsAt returnsFile k q ↔ q = p) ∧
        Csv.Gap (returnsFile.take p) above b skipped ∧
        1 = 1 + (above ++ [b]).count Csv.Scanner.lineFeed ∧
        Csv.lineAt returnsFile p = 1 + skipped.count Csv.Scanner.lineFeed ∧
        (1 = Csv.lineAt returnsFile p ↔ Csv.Scanner.lineFeed ∉ skipped) := by
  have hload : load "in.csv" returnsFile = .error (.outOfRange 1 Column.readRatio 2) := by
    decide +kernel
  exact ⟨hload, load_reports_line "in.csv" returnsFile _ 1 hload rfl⟩

def blankLineFile : Bytes :=
  Text.toBytes "TreeType,Sortedness,ReadRatio,InsertTime\n\nA,0.5,0.5,fast\n"

theorem blank_line_not_counted :
    ¬ ∀ (source : Path) (file : Bytes) (f : DataFault) (n k p : Nat),
      load source file = .error f → f.line? = some n → FaultAt source (Csv.split file) k f →
        Csv.StartsAt file k p → n = Csv.lineAt file p := by
  intro h
  have hload : load "in.csv" blankLineFile = .error (.invalidValue 2 Column.insertTime "fast") := by
    decide +kernel
  have hrecords : (Csv.split blankLineFile).length = 2 := by decide +kernel
  have hstarts : Csv.StartsAt blankLineFile 1 42 := by decide +kernel
  have hline : Csv.lineAt blankLineFile 42 = 3 := by decide +kernel
  obtain ⟨k, hfault⟩ := exists_faultAt "in.csv" blankLineFile _ hload
  obtain ⟨hk, r, hr, -⟩ := hfault.line rfl
  obtain ⟨hlt, -⟩ := List.getElem?_eq_some_iff.mp hr
  obtain rfl : k = 1 := by omega
  have hsame := h "in.csv" blankLineFile _ 2 1 42 hload rfl hfault hstarts
  rw [hline] at hsame
  exact absurd hsame (by decide)

end Table

end BenchReport
