import BenchReport.Proofs.Json.Reading
import BenchReport.Proofs.Lookup
import BenchReport.Proofs.Summary.RoundTrip

namespace BenchReport

namespace Json

theorem lookup_reverse_zip {α : Type} (names : List String) (values : List α) (i : Nat) (name : String)
    (hlength : values.length = names.length) (hi : names[i]? = some name)
    (hlast : ∀ k, i < k → names[k]? ≠ some name) :
    (names.zip values).reverse.lookup name = values[i]? := by
  induction names generalizing values i with
  | nil => simp at hi
  | cons n names ih =>
    obtain ⟨v, values, rfl⟩ := List.exists_cons_of_length_eq_add_one hlength
    rw [List.length_cons, List.length_cons, Nat.add_right_cancel_iff] at hlength
    rw [List.zip_cons_cons, List.reverse_cons, List.lookup_append]
    cases i with
    | zero =>
      obtain rfl : n = name := by simpa using hi
      have hrest : (names.zip values).reverse.lookup n = none := by
        rw [List.lookup_eq_none_iff]
        rintro ⟨m, w⟩ hmem
        obtain ⟨k, hk⟩ := List.getElem?_of_mem (List.of_mem_zip (List.mem_reverse.mp hmem)).1
        have hne : m ≠ n := by
          rintro rfl
          exact hlast (k + 1) (Nat.succ_pos k) hk
        simpa using hne.symm
      simp [hrest]
    | succ i =>
      rw [List.getElem?_cons_succ] at hi
      rw [ih values i hlength hi fun k hk => hlast (k + 1) (Nat.succ_lt_succ hk)]
      have hlt : i < values.length := by
        rw [hlength]
        exact (List.getElem?_eq_some_iff.mp hi).1
      simp [List.getElem?_eq_getElem hlt]

theorem member?_ofNames (members : List (String × Json)) (name : String)
    (h : name ∈ members.map (·.1)) :
    (ofNames members).spelled.member? name =
      some ((members.reverse.lookup name).getD null).spelled := by
  rw [ofNames, spelled, spelledMembers_eq_map, List.map_map, member?, ← List.map_reverse]
  apply lookup_map_pair
  rw [List.mem_reverse, Ordered.mem_distinct]
  exact h

end Json

namespace Summary

open Json (member?)

structure Identifies (j : Json) (r : SummaryRow) : Prop where
  treeType : j.member? "tree_type" = some (.text r.configuration.treeType)
  sortedness : j.member? "sortedness" = some (.number r.configuration.sortedness)
  readRatio : j.member? "read_ratio" = some (.number r.configuration.readRatio)
  trials : j.member? "trials" = some (.natural r.trials)

/-- A row of the document has the `i`-th mean of a row under the name of the `i`-th column, and
`null` for a mean that is missing or not finite. -/
def CarriesMean (columns : List String) (j : Json) (r : SummaryRow) (i : Nat) : Prop :=
  ∀ name, columns[i]? = some name → ∃ means, j.member? "means" = some means ∧
    means.member? name = some (((r.mean i).filter Double.isFinite).elim .null .number)

def LastOfItsName (columns : List String) (i : Nat) : Prop :=
  ∀ k < columns.length, i < k → columns[k]? ≠ columns[i]?

theorem spelled_meanJson (mean : Option Double) :
    (meanJson mean).spelled = (mean.filter Double.isFinite).elim .null .number := by
  cases mean with
  | none => rfl
  | some x =>
    rw [meanJson, Json.spelled, Option.filter_some]
    split_ifs <;> rfl

theorem namedRow_identifies (columns : List String) (r : SummaryRow)
    (hsortedness : r.configuration.sortedness.isFinite)
    (hratio : r.configuration.readRatio.isFinite) : Identifies (namedRow columns r).spelled r := by
  have hrow : (namedRow columns r).spelled = .object
      [("means", (Json.ofNames (columns.zip (r.means.map meanJson))).spelled),
        ("read_ratio", .number r.configuration.readRatio),
        ("sortedness", .number r.configuration.sortedness),
        ("tree_type", .text r.configuration.treeType), ("trials", .natural r.trials)] := by
    simp only [namedRow, Json.spelled, Json.spelledMembers, hsortedness, hratio, if_true]
  rw [hrow]
  constructor <;> rfl

theorem namedRow_carriesMean (columns : List String) (r : SummaryRow)
    (hlength : r.means.length = columns.length) (i : Nat) (hlast : LastOfItsName columns i) :
    CarriesMean columns (namedRow columns r).spelled r i := by
  intro name hi
  refine ⟨(Json.ofNames (columns.zip (r.means.map meanJson))).spelled, rfl, ?_⟩
  have hwidth : (r.means.map meanJson).length = columns.length := by rw [List.length_map, hlength]
  have hlater : ∀ k, i < k → columns[k]? ≠ some name := by
    intro k hk heq
    exact hlast k (List.getElem?_eq_some_iff.mp heq).1 hk (heq.trans hi.symm)
  have hfound := Json.lookup_reverse_zip columns (r.means.map meanJson) i name hwidth hi hlater
  have hname : name ∈ (columns.zip (r.means.map meanJson)).map (·.1) := by
    rw [List.map_fst_zip hwidth.ge]
    exact List.mem_of_getElem? hi
  have hlt : i < r.means.length := by
    rw [hlength]
    exact (List.getElem?_eq_some_iff.mp hi).1
  rw [Json.member?_ofNames _ name hname, hfound, SummaryRow.mean, List.getElem?_map,
    List.getElem?_eq_getElem hlt]
  exact congrArg some (spelled_meanJson _)

theorem read_document (s : Summary) :
    ∃ document, Json.read s.toJson = .ok document ∧
      document.member? "columns" = some (.list (s.columns.map .text)) ∧
      document.member? "rows" =
        some (.list (s.rows.map fun r => (namedRow s.columns r).spelled)) := by
  refine ⟨_, Json.read_indented _, ?_, ?_⟩
  · have hcolumns : (Json.list (s.columns.map .text)).spelled = .list (s.columns.map .text) := by
      rw [Json.spelled, Json.spelledItems_eq_map, List.map_map]
      rfl
    exact congrArg some hcolumns
  · have hrows : (Json.list (s.rows.map (namedRow s.columns))).spelled =
        .list (s.rows.map fun r => (namedRow s.columns r).spelled) := by
      rw [Json.spelled, Json.spelledItems_eq_map, List.map_map]
      rfl
    exact congrArg some hrows

/-- The document of a summary, read back, has all columns, all rows with their configurations, and
the means of all columns but those that a later column of the same name replaces. -/
theorem read_toJson (source : Path) (file : Bytes) (t : Table) (h : Table.load source file = .ok t)
    (o : DeriveOptions) :
    ∃ document rows, Json.read (ofView (View.derive t o)).toJson = .ok document ∧
      document.member? "columns" = some (.list ((ofView (View.derive t o)).columns.map .text)) ∧
      document.member? "rows" = some (.list rows) ∧
      List.Forall₂ (fun r j => r.means.length = (ofView (View.derive t o)).columns.length ∧
          Identifies j r ∧ ∀ i, LastOfItsName (ofView (View.derive t o)).columns i →
            CarriesMean (ofView (View.derive t o)).columns j r i)
        (ofView (View.derive t o)).rows rows := by
  obtain ⟨document, hread, hcolumns, hrows⟩ := read_document (ofView (View.derive t o))
  refine ⟨document, _, hread, hcolumns, hrows, ?_⟩
  have hlegible := View.derive_legible t (Table.load_legible source file t h) o
  rw [List.forall₂_map_right_iff, List.forall₂_same]
  intro r hr
  obtain ⟨-, hsortedness, hratio, hlength⟩ := row_legible _ hlegible r hr
  refine ⟨hlength, namedRow_identifies _ r hsortedness.finite hratio.finite, ?_⟩
  intro i hlast
  exact namedRow_carriesMean _ r hlength i hlast

def repeatedFile : Bytes :=
  Text.toBytes "TreeType,Sortedness,ReadRatio,InsertTime,InsertTime\nA,0.5,0.5,1,2\n"

def repeatedTable : Table :=
  ⟨"in.csv", ["InsertTime", "InsertTime"], [⟨"A", 0.5, 0.5, [some 1, some 2]⟩]⟩

def repeatedRow : SummaryRow := ⟨⟨0.5, "A", 0.5⟩, 1, [some 1, some 2, some 50]⟩

theorem load_repeatedFile : Table.load "in.csv" repeatedFile = .ok repeatedTable := by
  decide +kernel

theorem ofView_repeatedTable : ofView (View.derive repeatedTable {}) =
    ⟨["InsertTime", "InsertTime", "SortednessPercent"], [repeatedRow]⟩ := by
  decide +kernel

theorem repeated_name_keeps_last :
    Table.load "in.csv" repeatedFile = .ok repeatedTable ∧
      ∃ document row means, Json.read (ofView (View.derive repeatedTable {})).toJson = .ok document ∧
        document.member? "columns" =
          some (.list [.text "InsertTime", .text "InsertTime", .text "SortednessPercent"]) ∧
        document.member? "rows" = some (.list [row]) ∧ Identifies row repeatedRow ∧
        row.member? "means" = some means ∧ means.member? "InsertTime" = some (.number 2) ∧
        means.member? "SortednessPercent" = some (.number 50) := by
  obtain ⟨document, rows, hread, hcolumns, hrows, hall⟩ :=
    read_toJson "in.csv" repeatedFile repeatedTable load_repeatedFile {}
  rw [ofView_repeatedTable] at hcolumns hall
  obtain _ | @⟨_, row, _, rest, ⟨-, hidentifies, hmeans⟩, hrest⟩ := hall
  obtain rfl : rest = [] := List.forall₂_nil_left_iff.mp hrest
  have hlast : ∀ i ∈ [1, 2], LastOfItsName ["InsertTime", "InsertTime", "SortednessPercent"] i := by
    unfold LastOfItsName
    decide
  obtain ⟨means, hmeans₁, htime⟩ := hmeans 1 (hlast 1 (by decide)) "InsertTime" rfl
  obtain ⟨means', hmeans₂, hpercent⟩ := hmeans 2 (hlast 2 (by decide)) "SortednessPercent" rfl
  obtain rfl : means = means' := Option.some.inj (hmeans₁.symm.trans hmeans₂)
  have htwo : (repeatedRow.mean 1).filter Double.isFinite = some 2 := by decide +kernel
  have hfifty : (repeatedRow.mean 2).filter Double.isFinite = some 50 := by decide +kernel
  rw [htwo] at htime
  rw [hfifty] at hpercent
  exact ⟨load_repeatedFile, document, row, means, hread, hcolumns, hrows, hidentifies, hmeans₁, htime,
    hpercent⟩

theorem repeated_name_loses_mean :
    ¬ ∀ (source : Path) (file : Bytes) (t : Table) (o : DeriveOptions),
      Table.load source file = .ok t → ∃ document rows,
        Json.read (ofView (View.derive t o)).toJson = .ok document ∧
        document.member? "rows" = some (.list rows) ∧
        List.Forall₂ (fun r j => ∀ i, CarriesMean (ofView (View.derive t o)).columns j r i)
          (ofView (View.derive t o)).rows rows := by
  intro h
  obtain ⟨document, rows, -, -, hall⟩ := h "in.csv" repeatedFile repeatedTable {} load_repeatedFile
  rw [ofView_repeatedTable] at hall
  obtain _ | @⟨_, row, _, rest, hmeans, -⟩ := hall
  obtain ⟨means, hmeans₀, hfirst⟩ := hmeans 0 "InsertTime" rfl
  obtain ⟨means', hmeans₁, hlast⟩ := hmeans 1 "InsertTime" rfl
  obtain rfl : means = means' := Option.some.inj (hmeans₀.symm.trans hmeans₁)
  have hone : (repeatedRow.mean 0).filter Double.isFinite = some 1 := by decide +kernel
  have htwo : (repeatedRow.mean 1).filter Double.isFinite = some 2 := by decide +kernel
  rw [hone] at hfirst
  rw [htwo, hfirst] at hlast
  have hsame : (1 : Double) = 2 := Json.number.inj (Option.some.inj hlast)
  exact absurd hsame (by decide)

end Summary

end BenchReport
