import BenchReport.Proofs.Double.Mean
import BenchReport.Proofs.Double.Order
import BenchReport.Proofs.Ordered
import BenchReport.Summary

namespace BenchReport

open Std Ordered

instance : TransOrd Configuration :=
  inferInstanceAs (TransCmp (compareLex (compareOn Configuration.readRatio)
    (compareLex (compareOn Configuration.treeType) (compareOn Configuration.sortedness))))

theorem Configuration.compare_eq (c d : Configuration) :
    compare c d = (compare c.readRatio d.readRatio).then
      ((compare c.treeType d.treeType).then (compare c.sortedness d.sortedness)) := rfl

instance : LawfulEqOrd Configuration where
  eq_of_compare {c d} h := by
    simp only [Configuration.compare_eq, Ordering.then_eq_eq] at h
    obtain ⟨hr, ht, hs⟩ := h
    rw [Configuration.mk.injEq]
    exact ⟨LawfulEqOrd.eq_of_compare hr, LawfulEqOrd.eq_of_compare ht, LawfulEqOrd.eq_of_compare hs⟩

namespace SummaryRow

def mean (r : SummaryRow) (i : Nat) : Option Double := r.means[i]?.join

end SummaryRow

namespace Summary

variable [Div Double]

def meanOf (t : Tally) : Option Double := (meanOfBy Double.plainDiv t).run

theorem meanOf_eq (t : Tally) : meanOf t = if 0 < t.count then some t.mean else none := by
  unfold meanOf meanOfBy
  split_ifs <;> rfl

variable [Add Double]

def meanOver (rows : List Row) (i : Nat) : Option Double :=
  if rows.filterMap (·.value i) = [] then none else some (.mean (rows.filterMap (·.value i)))

def rowOf (width : Nat) (rows : List Row) (c : Configuration) : SummaryRow :=
  ⟨c, (rows.filter (·.configuration = c)).length,
    (List.range width).map (meanOver (rows.filter (·.configuration = c)))⟩

theorem meanOver_isSome_iff (rows : List Row) (i : Nat) :
    (meanOver rows i).isSome ↔ ∃ r ∈ rows, (r.value i).isSome := by
  rw [meanOver, ← not_iff_not]
  simp

theorem meanOf_foldl_add (rows : List Row) (i : Nat) :
    meanOf ((rows.filterMap (·.value i)).foldl Tally.add {}) = meanOver rows i := by
  rw [meanOf_eq, Tally.foldl_add_mean, Tally.foldl_add]
  cases hvalues : rows.filterMap (·.value i) with
  | nil => simp [meanOver, hvalues]
  | cons x xs =>
    simp only [meanOver, hvalues, List.length_cons, Nat.succ_pos, if_true, reduceCtorEq, if_false]

omit [Div Double] in
theorem foldl_add_trials (rows : List Row) (g : Trials) :
    rows.foldl Trials.add g = ⟨g.count + rows.length,
      g.tallies.mapIdx fun i t => (rows.filterMap (·.value i)).foldl Tally.add t⟩ := by
  induction rows generalizing g with
  | nil =>
    have hsame : g.tallies.mapIdx (fun _ t => t) = g.tallies := by simp [List.ext_getElem_iff]
    simp [hsame]
  | cons r rows ih =>
    have htally (i : Nat) (t : Tally) : ((r :: rows).filterMap (·.value i)).foldl Tally.add t =
        (rows.filterMap (·.value i)).foldl Tally.add ((r.value i).elim t t.add) := by
      rw [List.filterMap_cons]
      cases r.value i <;> rfl
    rw [List.foldl_cons, ih, List.length_cons, Nat.add_comm rows.length, ← Nat.add_assoc]
    simp only [Trials.add, List.mapIdx_mapIdx, Function.comp_def, htally]

theorem ofView_eq_map (v : View) : ofView v = ⟨v.table.columns,
    (v.table.rows.foldl (gather v.table.columns.length) []).map fun g =>
      ⟨g.1, g.2.count, g.2.tallies.map meanOf⟩⟩ := by
  have hrow (g : Configuration × Trials) : (rowBy Double.plainDiv g).run =
      ⟨g.1, g.2.count, g.2.tallies.map meanOf⟩ :=
    congrArg (SummaryRow.mk g.1 g.2.count) List.idRun_mapM
  simp only [ofView, ofViewBy, Id.run_bind, Id.run_pure, List.idRun_mapM, hrow]

theorem rows_eq (v : View) : (ofView v).rows =
    (distinct (v.table.rows.map (·.configuration))).map
      (rowOf v.table.columns.length v.table.rows) := by
  have hgather : v.table.rows.foldl (gather v.table.columns.length) [] =
      collect Row.configuration ⟨0, List.replicate v.table.columns.length {}⟩ Trials.add
        v.table.rows :=
    foldl_update _ _ _ _
  rw [ofView_eq_map, hgather, collect, List.map_map]
  apply List.map_congr_left
  intro c _
  simp only [Function.comp_apply, foldl_add_trials, rowOf, Nat.zero_add, SummaryRow.mk.injEq,
    true_and]
  apply List.ext_getElem
  · simp
  · intro i _ _
    simp [meanOf_foldl_add]

theorem mem_rows_iff (v : View) (r : SummaryRow) :
    r ∈ (ofView v).rows ↔ r.configuration ∈ v.table.rows.map (·.configuration) ∧
      r = rowOf v.table.columns.length v.table.rows r.configuration := by
  rw [rows_eq]
  simp only [List.mem_map, mem_distinct]
  constructor
  · rintro ⟨c, hc, rfl⟩
    exact ⟨hc, rfl⟩
  · rintro ⟨hc, hr⟩
    exact ⟨r.configuration, hc, hr.symm⟩

theorem rowOf_mean (width : Nat) (rows : List Row) (c : Configuration) (i : Nat) (hi : i < width) :
    (rowOf width rows c).mean i = meanOver (rows.filter (·.configuration = c)) i := by
  simp [SummaryRow.mean, rowOf, hi]

end Summary

end BenchReport
