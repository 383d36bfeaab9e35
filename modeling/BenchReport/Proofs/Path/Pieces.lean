import BenchReport.Path
import Mathlib.Data.List.Basic
import Mathlib.Tactic.SplitIfs

namespace BenchReport.Path

theorem isIdle_eq_false_iff (piece : List Char) :
    isIdle piece = false ↔ piece ≠ [] ∧ piece ≠ ['.'] := by
  simp [isIdle]

theorem pieces_ne_nil (cs : List Char) : pieces cs ≠ [] := by
  cases cs with
  | nil => exact List.cons_ne_nil _ _
  | cons c cs =>
    unfold pieces
    split_ifs
    · exact List.cons_ne_nil _ _
    · split <;> exact List.cons_ne_nil _ _

theorem pieces_cons (c : Char) (cs piece : List Char) (rest : List (List Char)) (hc : c ≠ '/')
    (h : pieces cs = piece :: rest) : pieces (c :: cs) = (c :: piece) :: rest := by
  rw [pieces, if_neg hc, h]

theorem pieces_append_slash (as bs : List Char) :
    pieces (as ++ '/' :: bs) = pieces as ++ pieces bs := by
  induction as with
  | nil => simp [pieces]
  | cons c cs ih =>
    by_cases hc : c = '/'
    · simp [pieces, hc, ih]
    · obtain ⟨piece, rest, hpieces⟩ := List.exists_cons_of_ne_nil (pieces_ne_nil cs)
      rw [hpieces, List.cons_append] at ih
      rw [List.cons_append, pieces_cons c _ _ _ hc ih, pieces_cons c cs _ _ hc hpieces,
        List.cons_append]

theorem flatMap_pieces (cs : List Char) : (pieces cs).flatMap ('/' :: ·) = '/' :: cs := by
  induction cs with
  | nil => rfl
  | cons c cs ih =>
    by_cases hc : c = '/'
    · simp [pieces, hc, ih]
    · obtain ⟨piece, rest, hpieces⟩ := List.exists_cons_of_ne_nil (pieces_ne_nil cs)
      rw [hpieces, List.flatMap_cons, List.cons_append, List.cons.injEq] at ih
      rw [pieces_cons c cs _ _ hc hpieces, List.flatMap_cons, List.cons_append, List.cons_append, ih.2]

theorem pieces_of_no_slash (cs : List Char) (h : '/' ∉ cs) : pieces cs = [cs] := by
  induction cs with
  | nil => rfl
  | cons c cs ih =>
    rw [List.mem_cons, not_or] at h
    exact pieces_cons c cs cs [] (Ne.symm h.1) (ih h.2)

theorem pieces_append (cs tail : List Char) (htail : '/' ∉ tail) :
    ∃ init last, pieces cs = init ++ [last] ∧ pieces (cs ++ tail) = init ++ [last ++ tail] := by
  induction cs with
  | nil => exact ⟨[], [], rfl, pieces_of_no_slash tail htail⟩
  | cons c cs ih =>
    obtain ⟨init, last, hpieces, happended⟩ := ih
    by_cases hc : c = '/'
    · refine ⟨[] :: init, last, ?_, ?_⟩
      · rw [pieces, if_pos hc, hpieces, List.cons_append]
      · rw [List.cons_append, pieces, if_pos hc, happended, List.cons_append]
    · cases init with
      | nil => exact ⟨[], c :: last, pieces_cons c cs _ _ hc hpieces, pieces_cons c _ _ _ hc happended⟩
      | cons piece init =>
        exact ⟨(c :: piece) :: init, last, pieces_cons c cs _ _ hc hpieces,
          pieces_cons c _ _ _ hc happended⟩

def Descends (p : Path) : Prop :=
  ∀ piece ∈ pieces p.toList, isIdle piece = false ∧ piece ≠ ['.', '.']

instance (p : Path) : Decidable (Descends p) := inferInstanceAs (Decidable (∀ _ ∈ _, _))

theorem Descends.isAbsolute {p : Path} (h : Descends p) : isAbsolute p = false := by
  unfold Descends at h
  unfold Path.isAbsolute
  cases hp : p.toList with
  | nil => rfl
  | cons c cs =>
    rw [hp] at h
    rw [List.head?_cons, decide_eq_false_iff_not, Option.some.injEq]
    rintro rfl
    have hempty := (h [] (by simp [pieces])).1
    cases hempty

theorem Descends.append_extension {p : Path} (h : Descends p) (extension : String)
    (hslash : '/' ∉ extension.toList) (hne : extension ≠ "") :
    Descends (p ++ "." ++ extension) := by
  have htail : '/' ∉ '.' :: extension.toList := by simpa using hslash
  obtain ⟨init, last, hpieces, happended⟩ := pieces_append p.toList _ htail
  have htext : (p ++ "." ++ extension).toList = p.toList ++ '.' :: extension.toList := by
    simp [String.toList_append]
  unfold Descends at *
  rw [hpieces] at h
  rw [htext, happended]
  obtain ⟨hinit, hlast⟩ := List.forall_mem_append.mp h
  refine List.forall_mem_append.mpr ⟨hinit, List.forall_mem_singleton.mpr ?_⟩
  -- a name with an extension is longer than `..`
  have hlength : 2 < (last ++ '.' :: extension.toList).length := by
    have hname := ((isIdle_eq_false_iff last).mp (List.forall_mem_singleton.mp hlast).1).1
    have hpos := List.length_pos_iff.mpr hname
    have hpos' : 0 < extension.toList.length :=
      List.length_pos_iff.mpr (mt String.toList_eq_nil_iff.mp hne)
    rw [List.length_append, List.length_cons]
    omega
  refine ⟨(isIdle_eq_false_iff _).mpr ⟨?_, ?_⟩, ?_⟩ <;> intro heq <;> rw [heq] at hlength <;>
    exact absurd hlength (by decide)

end BenchReport.Path
