import BenchReport.Proofs.Double.Rounding
import BenchReport.Proofs.Ordered
import BenchReport.Proofs.Run.Preparation
import BenchReport.Proofs.Series
import BenchReport.Proofs.Summary
/-!
Where a report divides, and by what. Its division is left open here, so that it may fail. When it
only ever fails for divisors that are not above 0, valid settings never meet a failure: trial counts
are checked beforehand, a count of gathered numbers is at least 1 as soon as it exists, and times
that are not above 0 are passed over.
-/

namespace BenchReport

open Ordered

namespace Sample

def Counted (tallies : List (Double × Tally)) : Prop := ∀ q ∈ tallies, 0 < q.2.count

theorem tally_counted (tallies : List (Double × Tally)) (s : Sample) (h : Counted tallies) :
    Counted (tally tallies s) := by
  apply forall_update (P := fun t : Tally => 0 < t.count) _ _ _ _ _ _ h
  · exact Nat.succ_pos _
  · intro t _
    exact Nat.succ_pos t.count

theorem gather_counted (groups : List (SeriesKey × List (Double × Tally))) (s : Sample)
    (h : ∀ g ∈ groups, Counted g.2) : ∀ g ∈ gather groups s, Counted g.2 := by
  apply forall_update _ _ _ _ _ _ h
  · exact tally_counted [] s (by simp [Counted])
  · intro tallies htallies
    exact tally_counted tallies s htallies

theorem foldl_gather_counted (samples : List Sample)
    (groups : List (SeriesKey × List (Double × Tally))) (h : ∀ g ∈ groups, Counted g.2) :
    ∀ g ∈ samples.foldl gather groups, Counted g.2 := by
  induction samples generalizing groups with
  | nil => exact h
  | cons s samples ih => exact ih _ (gather_counted groups s h)

end Sample

section Results

variable {m : Type → Type} [Monad m] {divide : Double → Double → m Double}
  (hdivide : ∀ x y : Double, 0 < y → divide x y = pure (x / y))

include hdivide

theorem Tally.meanBy_eq (t : Tally) (h : 0 < t.count) : t.meanBy divide = pure t.mean :=
  hdivide _ _ (Double.natCast_pos _ h)

variable [LawfulMonad m]

namespace View

theorem hitRateCellsBy_eq (t : Table) (trials : Option UInt64) (h : trials ≠ some 0) :
    hitRateCellsBy divide t trials = pure (hitRateCells? t trials) := by
  rw [hitRateCells?_eq_match]
  unfold hitRateCellsBy
  cases t.columnValues? Column.fastPathHits with
  | none => rfl
  | some hits =>
    cases trials with
    | none => rfl
    | some n =>
      have hne : n ≠ 0 := fun hzero => h (congrArg some hzero)
      have hpos : 0 < n.toNat := Nat.pos_of_ne_zero fun hzero => hne (UInt64.toNat_inj.mp hzero)
      dsimp only
      rw [mapM_eq_pure _ (fun cell => cell.map fun h => h * 100 / (n.toNat : Double)), map_pure]
      rintro (_ | hit) _
      · rfl
      · rw [Option.mapM_some, hdivide _ _ (Double.natCast_pos _ hpos), map_pure, Option.map_some]

theorem speedupBy_eq (sums : List (Workload × Tally)) (i : Nat) (r : Row)
    (h : ∀ sum ∈ sums, 0 < sum.2.count) :
    speedupBy divide sums i r = pure (speedupBy Double.plainDiv sums i r).run := by
  unfold speedupBy
  cases hfind : find? r.workload sums with
  | none => rfl
  | some sum =>
    cases r.value i with
    | none => rfl
    | some time =>
      dsimp only
      split_ifs with htime
      · obtain ⟨w, hw⟩ := mem_of_find? hfind
        rw [Tally.meanBy_eq hdivide sum (h _ hw), pure_bind, hdivide _ _ htime, map_pure]
        rfl
      · rfl

theorem speedupCellsBy_eq (t : Table) (column baseline : String) :
    speedupCellsBy divide t column baseline = pure (speedupCells? t column baseline) := by
  unfold speedupCells? speedupCellsBy
  cases t.columnIndex? column with
  | none => rfl
  | some i =>
    dsimp only
    split_ifs
    · rfl
    · rw [mapM_eq_pure _ _ _ fun r _ =>
        speedupBy_eq hdivide _ i r (baselineSums_counted t i baseline), map_pure, Id.run_map,
        List.idRun_mapM]

theorem derivedColumnsBy_eq (t : Table) (o : DeriveOptions) (h : o.trialCount ≠ some 0) :
    derivedColumnsBy divide t o = pure (derivedColumns t o) := by
  rw [derivedColumns_eq_append]
  unfold derivedColumnsBy
  rw [hitRateCellsBy_eq hdivide t o.trialCount h, pure_bind,
    mapM_eq_pure _ (fun column : String × String =>
      (speedupCells? t column.1 o.baseline).map (column.2, ·)), pure_bind, List.filterMap_map]
  · rfl
  · rintro ⟨source, target⟩ -
    dsimp only
    rw [speedupCellsBy_eq hdivide, map_pure]

theorem deriveBy_eq (t : Table) (o : DeriveOptions) (h : o.trialCount ≠ some 0) :
    deriveBy divide t o = pure (derive t o) := by
  rw [deriveBy, derivedColumnsBy_eq hdivide t o h, pure_bind]
  rfl

theorem seriesBy_eq (v : View) (column : String) :
    v.seriesBy divide column = pure (v.series column) := by
  rw [series_eq_samples, Sample.series_eq_map]
  apply mapM_eq_pure
  intro g hg
  rw [mapM_eq_pure _ Sample.pointOf, map_pure]
  intro q hq
  have hcounted := Sample.foldl_gather_counted (v.samples column) [] (by simp)
  rw [Sample.pointBy, Tally.meanBy_eq hdivide q.2 (hcounted g hg q hq), map_pure]
  rfl

end View

theorem Summary.ofViewBy_eq (v : View) : ofViewBy divide v = pure (ofView v) := by
  have hmean (t : Tally) : meanOfBy divide t = pure (meanOf t) := by
    rw [meanOf_eq]
    unfold meanOfBy
    split_ifs with hcount
    · rw [Tally.meanBy_eq hdivide t hcount, map_pure]
    · rfl
  rw [ofViewBy, ofView_eq_map, mapM_eq_pure _ fun g => ⟨g.1, g.2.count, g.2.tallies.map meanOf⟩,
    pure_bind]
  intro g _
  rw [rowBy, mapM_eq_pure _ meanOf _ fun t _ => hmean t, map_pure]

theorem Run.prepareBy_eq (s : Settings) (d : Disk) :
    prepareBy divide s d = pure (prepare s d) := by
  rw [prepare_eq_match]
  unfold prepareBy
  cases hs : s.validate with
  | error f => rfl
  | ok _ =>
    cases loadInput s.input d with
    | error f => rfl
    | ok t =>
      have htrials := ((s.validate_eq_ok_iff).mp hs).1
      dsimp only
      rw [View.deriveBy_eq hdivide t s.deriveOptions htrials, map_pure]

end Results

/-- The quotient by a number above 0, or the divisor as a fault. -/
def Double.guardedDiv (x y : Double) : Except Double Double :=
  if 0 < y then .ok (x / y) else .error y

theorem Double.guardedDiv_eq (x y : Double) (h : 0 < y) : guardedDiv x y = pure (x / y) := if_pos h

namespace Run

/-- Valid settings and an input that loads never lead to a division by a number that is not above 0:
neither the view nor a series nor the summary is any different when such a division is a fault. -/
theorem divisors_positive (s : Settings) (d : Disk) (t : Table) (hs : s.validate = .ok ())
    (ht : loadInput s.input d = .ok t) :
    prepare s d = .ok (View.derive t s.deriveOptions) ∧
      prepareBy Double.guardedDiv s d = .ok (prepare s d) ∧
      (∀ column, (View.derive t s.deriveOptions).seriesBy Double.guardedDiv column =
        .ok ((View.derive t s.deriveOptions).series column)) ∧
      Summary.ofViewBy Double.guardedDiv (View.derive t s.deriveOptions) =
        .ok (Summary.ofView (View.derive t s.deriveOptions)) := by
  have hdivide := Double.guardedDiv_eq
  refine ⟨?_, prepareBy_eq hdivide s d, View.seriesBy_eq hdivide _, Summary.ofViewBy_eq hdivide _⟩
  rw [prepare_eq_match, hs, ht]

def timedHitsFile : Bytes := Text.toBytes
  ("TreeType,Sortedness,ReadRatio,InsertTime,FastPathHits\nSimpleBTree,0.5,0.5,4,10\n" ++
    "LasTree,0.5,0.5,2,\nLasTree,0.5,0.5,0,5\n")

def timedHits : Table :=
  ⟨"hits.csv", [Column.insertTime, Column.fastPathHits],
    [⟨"SimpleBTree", 0.5, 0.5, [some 4, some 10]⟩, ⟨"LasTree", 0.5, 0.5, [some 2, none]⟩,
      ⟨"LasTree", 0.5, 0.5, [some 0, some 5]⟩]⟩

def timedHitsDisk : Disk := (Disk.bare ["work"]).put ⟨"/work/hits.csv"⟩ (.file timedHitsFile)

def timedHitsView : View := View.derive timedHits ⟨some 20, defaultBaseline⟩

theorem timedHits_divisors_positive :
    Settings.validate { input := "hits.csv", trialCount := some 20 } = .ok () ∧
      loadInput "hits.csv" timedHitsDisk = .ok timedHits ∧
      prepareBy Double.guardedDiv { input := "hits.csv", trialCount := some 20 } timedHitsDisk =
        .ok (.ok timedHitsView) ∧
      timedHitsView.seriesBy Double.guardedDiv Column.insertSpeedup =
        .ok [(⟨0.5, "LasTree"⟩, [⟨50, 2, 1⟩]), (⟨0.5, "SimpleBTree"⟩, [⟨50, 1, 1⟩])] ∧
      Summary.ofViewBy Double.guardedDiv timedHitsView = .ok (Summary.ofView timedHitsView) ∧
      View.deriveBy Double.guardedDiv timedHits ⟨some 0, defaultBaseline⟩ = .error 0 := by
  have hvalid : Settings.validate { input := "hits.csv", trialCount := some 20 } = .ok () := by
    decide +kernel
  have hload : loadInput "hits.csv" timedHitsDisk = .ok timedHits := by decide +kernel
  have hseries : timedHitsView.series Column.insertSpeedup =
      [(⟨0.5, "LasTree"⟩, [⟨50, 2, 1⟩]), (⟨0.5, "SimpleBTree"⟩, [⟨50, 1, 1⟩])] := by decide +kernel
  obtain ⟨hprepare, hguarded, hby, hsummary⟩ :=
    divisors_positive { input := "hits.csv", trialCount := some 20 } timedHitsDisk timedHits hvalid
      hload
  rw [hprepare] at hguarded
  refine ⟨hvalid, hload, hguarded, ?_, hsummary, by decide +kernel⟩
  rw [← hseries]
  exact hby Column.insertSpeedup

end Run

end BenchReport
