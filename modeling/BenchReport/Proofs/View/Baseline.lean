import BenchReport.Proofs.Double.Mean
import BenchReport.Proofs.Double.Order
import BenchReport.Proofs.Except
import BenchReport.Proofs.Ordered
import BenchReport.View
/-!
The times of the baseline are added up in one map for all rows. Each workload keeps its own sum in
it, so what a row finds there is made from the times at its own sortedness and read ratio.
-/

namespace BenchReport

open Std Ordered

instance : TransOrd Workload :=
  inferInstanceAs (TransCmp (compareLex (compareOn Workload.sortedness)
    (compareOn Workload.readRatio)))

theorem Workload.compare_eq (w x : Workload) :
    compare w x = (compare w.sortedness x.sortedness).then (compare w.readRatio x.readRatio) := rfl

instance : LawfulEqOrd Workload where
  eq_of_compare {w x} h := by
    rw [Workload.compare_eq, Ordering.then_eq_eq] at h
    obtain ⟨hs, hr⟩ := h
    rw [Workload.mk.injEq]
    exact ⟨LawfulEqOrd.eq_of_compare hs, LawfulEqOrd.eq_of_compare hr⟩

namespace View

def baselineTimes (t : Table) (i : Nat) (baseline : String) (sortedness ratio : Double) :
    List Double :=
  t.rows.filterMap fun r =>
    if r.treeType = baseline ∧ r.sortedness = sortedness ∧ r.readRatio = ratio then r.value i
    else none

def timesByWorkload (t : Table) (i : Nat) (baseline : String) : List (Workload × Double) :=
  (t.rows.filter (·.treeType = baseline)).filterMap fun r => (r.value i).map (r.workload, ·)

theorem timesByWorkload_filter (t : Table) (i : Nat) (baseline : String) (w : Workload) :
    ((timesByWorkload t i baseline).filter (·.1 = w)).map (·.2) =
      baselineTimes t i baseline w.sortedness w.readRatio := by
  unfold timesByWorkload baselineTimes
  rw [List.filter_filterMap, List.map_filterMap, List.filterMap_filter]
  apply List.filterMap_congr
  intro r _
  have hworkload : r.workload = w ↔ r.sortedness = w.sortedness ∧ r.readRatio = w.readRatio := by
    cases w
    exact Workload.mk.injEq .. ▸ Iff.rfl
  by_cases htree : r.treeType = baseline
  · cases r.value i with
    | none => simp
    | some time => by_cases h : r.workload = w <;> simp [htree, h, ← hworkload, Option.filter]
  · simp [htree]

variable [Add Double]

theorem baselineSums_eq (t : Table) (i : Nat) (baseline : String) :
    baselineSums t i baseline =
      collect (·.1) ({} : Tally) (fun sum time => sum.add time.2) (timesByWorkload t i baseline) := by
  have hgather : baselineSums t i baseline = (timesByWorkload t i baseline).foldl
      (fun sums time => update ({} : Tally) (·.add time.2) time.1 sums) [] := by
    unfold baselineSums timesByWorkload
    rw [List.foldl_filterMap]
    congr 1
    funext sums r
    unfold gatherTimes
    cases r.value i <;> rfl
  rw [hgather]
  exact foldl_update Prod.fst ({} : Tally) (fun sum time => sum.add time.2) _

theorem find?_baselineSums (t : Table) (i : Nat) (baseline : String) (w : Workload) :
    find? w (baselineSums t i baseline) =
      if baselineTimes t i baseline w.sortedness w.readRatio = [] then none
      else some ((baselineTimes t i baseline w.sortedness w.readRatio).foldl Tally.add {}) := by
  have hnone : baselineTimes t i baseline w.sortedness w.readRatio = [] ↔
      w ∉ (timesByWorkload t i baseline).map (·.1) := by
    rw [← timesByWorkload_filter, List.map_eq_nil_iff, List.filter_eq_nil_iff, List.mem_map,
      not_exists]
    simp only [decide_eq_true_eq, not_and]
  rw [baselineSums_eq, find?_collect, ← timesByWorkload_filter, List.foldl_map,
    timesByWorkload_filter, if_congr hnone rfl rfl, ite_not]

theorem baselineSums_isEmpty_iff (t : Table) (i : Nat) (baseline : String) :
    (baselineSums t i baseline).isEmpty ↔
      ¬ ∃ r ∈ t.rows, r.treeType = baseline ∧ (r.value i).isSome := by
  rw [baselineSums_eq, List.isEmpty_iff, collect_eq_nil_iff, timesByWorkload,
    List.filterMap_eq_nil_iff]
  simp

theorem baselineSums_counted (t : Table) (i : Nat) (baseline : String) :
    ∀ sum ∈ baselineSums t i baseline, 0 < sum.2.count := by
  have hstep (sums : List (Workload × Tally)) (r : Row) (h : ∀ sum ∈ sums, 0 < sum.2.count) :
      ∀ sum ∈ gatherTimes i sums r, 0 < sum.2.count := by
    unfold gatherTimes
    cases r.value i with
    | none => exact h
    | some time =>
      apply forall_update (P := fun sum : Tally => 0 < sum.count) _ _ _ _ _ _ h
      · exact Nat.succ_pos _
      · intro sum _
        exact Nat.succ_pos sum.count
  have hrun (rows : List Row) (sums : List (Workload × Tally)) (h : ∀ sum ∈ sums, 0 < sum.2.count) :
      ∀ sum ∈ rows.foldl (gatherTimes i) sums, 0 < sum.2.count := by
    induction rows generalizing sums with
    | nil => exact h
    | cons r rows ih => exact ih _ (hstep sums r h)
  exact hrun _ [] (by simp)

variable [Div Double]

def speedup : List Double → Option Double → Option Double
  | [], _ => none
  | _, none => none
  | baseline, some time => if 0 < time then some (Double.mean baseline / time) else none

theorem speedup_eq_some_iff (times : List Double) (cell : Option Double) (x : Double) :
    speedup times cell = some x ↔
      times ≠ [] ∧ ∃ time, cell = some time ∧ 0 < time ∧ x = Double.mean times / time := by
  cases times with
  | nil => simp [speedup]
  | cons first rest =>
    cases cell with
    | none => simp [speedup]
    | some time => simp [speedup, eq_comm]

theorem speedupBy_baselineSums (t : Table) (i : Nat) (baseline : String) (r : Row) :
    (speedupBy Double.plainDiv (baselineSums t i baseline) i r).run =
      speedup (baselineTimes t i baseline r.sortedness r.readRatio) (r.value i) := by
  unfold speedupBy
  rw [find?_baselineSums]
  cases htimes : baselineTimes t i baseline r.sortedness r.readRatio with
  | nil => simp [Row.workload, htimes, speedup]
  | cons first rest =>
    cases r.value i with
    | none => simp [Row.workload, htimes, speedup]
    | some time =>
      simp only [Row.workload, htimes, reduceCtorEq, if_false, speedup, ← Tally.foldl_add_mean]
      split_ifs <;> rfl

theorem speedupCells?_eq_rows (t : Table) (column baseline : String) :
    speedupCells? t column baseline =
      match t.columnIndex? column with
      | none => none
      | some i =>
        if ∃ r ∈ t.rows, r.treeType = baseline ∧ (r.value i).isSome then
          some (t.rows.map fun r =>
            speedup (baselineTimes t i baseline r.sortedness r.readRatio) (r.value i))
        else none := by
  unfold speedupCells? speedupCellsBy
  cases t.columnIndex? column with
  | none => rfl
  | some i =>
    simp only [baselineSums_isEmpty_iff, ite_not]
    split_ifs
    · simp only [Id.run_map, List.idRun_mapM, speedupBy_baselineSums]
    · rfl

end View

end BenchReport
