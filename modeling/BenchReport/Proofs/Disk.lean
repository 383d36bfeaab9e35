import BenchReport.Disk
import BenchReport.Proofs.Except
import Mathlib.Tactic.SplitIfs
/-!
A disk says that a path is not found exactly when there is nothing at some place on its way.
-/

namespace BenchReport.Disk

inductive LeadsNowhere (d : Disk) : Place → List (List Char) → Prop
  | here {p : Place} {pieces : List (List Char)} : d.find? p = none → LeadsNowhere d p pieces
  | further {p q : Place} {piece : List Char} {pieces : List (List Char)} :
    d.enter p piece = .ok q → LeadsNowhere d q pieces → LeadsNowhere d p (piece :: pieces)

/-- Opening the path reports that it is not found: it is empty, or it is well formed and leads nowhere.
Nothing exists below a file or under a name that is too long either, but there the report is another
one. -/
def NotFound (d : Disk) (path : Path) : Prop :=
  path.isEmpty ∨ checkPath path = .ok () ∧ d.LeadsNowhere (d.start path) (Path.pieces path.toList)

theorem checkPath_eq_notFound_iff (path : Path) :
    checkPath path = .error .notFound ↔ path.isEmpty := by
  unfold checkPath
  split_ifs with hempty <;> simp [hempty]

theorem enter_eq_notFound_iff (d : Disk) (p : Place) (piece : List Char) :
    d.enter p piece = .error .notFound ↔ d.find? p = none := by
  unfold enter
  split
  · simp [*]
  · simp [*]
  · rename_i hfind
    simp only [hfind, reduceCtorEq, iff_false]
    split_ifs <;> simp

def follow (d : Disk) (p : Place) (pieces : List (List Char)) : Except DiskError DiskEntry := do
  let q ← pieces.foldlM d.enter p
  match d.find? q with
  | some e => .ok e
  | none => .error .notFound

theorem follow_nil (d : Disk) (p : Place) : d.follow p [] =
    match d.find? p with
    | some e => .ok e
    | none => .error .notFound := rfl

theorem follow_cons (d : Disk) (p : Place) (piece : List Char) (pieces : List (List Char)) :
    d.follow p (piece :: pieces) = d.enter p piece >>= fun q => d.follow q pieces := by
  unfold follow
  rw [List.foldlM_cons]
  cases d.enter p piece <;> rfl

theorem follow_eq_notFound_iff (d : Disk) (p : Place) (pieces : List (List Char)) :
    d.follow p pieces = .error .notFound ↔ d.LeadsNowhere p pieces := by
  induction pieces generalizing p with
  | nil =>
    rw [follow_nil]
    constructor
    · intro h
      split at h
      · cases h
      · exact .here ‹_›
    · rintro (h | _)
      rw [h]
  | cons piece pieces ih =>
    rw [follow_cons, bind_eq_error_iff, enter_eq_notFound_iff]
    constructor
    · rintro (h | ⟨q, hq, h⟩)
      · exact .here h
      · exact .further hq ((ih q).mp h)
    · rintro (h | ⟨hq, h⟩)
      · exact .inl h
      · exact .inr ⟨_, hq, (ih _).mpr h⟩

theorem entryAt_eq_notFound_iff (d : Disk) (path : Path) :
    d.entryAt path = .error .notFound ↔ d.NotFound path := by
  have hsteps : d.entryAt path = checkPath path >>= fun _ =>
      d.follow (d.start path) (Path.pieces path.toList) := by
    unfold entryAt locate follow
    cases checkPath path <;> rfl
  rw [hsteps, bind_eq_error_iff, checkPath_eq_notFound_iff, follow_eq_notFound_iff]
  constructor
  · rintro (h | ⟨⟨⟩, hcheck, h⟩)
    · exact .inl h
    · exact .inr ⟨hcheck, h⟩
  · rintro (h | ⟨hcheck, h⟩)
    · exact .inl h
    · exact .inr ⟨(), hcheck, h⟩

end BenchReport.Disk
