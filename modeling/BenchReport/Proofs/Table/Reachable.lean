import BenchReport.Proofs.Table.Loading

namespace BenchReport.Table

inductive Reachable : Table → Prop
  | empty (source : Path) (columns : List String) : Reachable (.empty source columns)
  | load {source : Path} {file : Bytes} {t : Table} : load source file = .ok t → Reachable t
  | add {t : Table} (r : Row) : Reachable t → Reachable (t.add r)
  | derive {t : Table} (o : DeriveOptions) : Reachable t → Reachable (View.derive t o).table

theorem fit_length (width : Nat) (values : List (Option Double)) :
    (fit width values).length = width := by
  simp only [fit, List.length_append, List.length_take, List.length_replicate]
  omega

theorem add_rectangular (t : Table) (r : Row) (h : t.Rectangular) : (t.add r).Rectangular := by
  intro q hq
  rcases List.mem_append.mp hq with hq | hq
  · exact h q hq
  · rw [List.mem_singleton.mp hq]
    exact fit_length _ _

theorem Reachable.rectangular {t : Table} (h : t.Reachable) : t.Rectangular := by
  induction h with
  | empty source columns => intro r hr; cases hr
  | load hload => exact load_rectangular _ _ _ hload
  | add r _ ih => exact add_rectangular _ r ih
  | derive o _ ih => exact View.derive_rectangular _ o ih

end BenchReport.Table
