import BenchReport.Text.Blank
import Mathlib.Data.List.DropRight

namespace BenchReport.Text

variable {α : Type} (p : α → Bool)

structure Bare (as : List α) : Prop where
  head : ∀ a, as.head? = some a → p a = false
  last : ∀ a, as.getLast? = some a → p a = false

theorem strip_eq_self (as : List α) (h : Bare p as) :
    ((as.dropWhile p).reverse.dropWhile p).reverse = as := by
  have drop_self (bs : List α) (hb : ∀ b, bs.head? = some b → p b = false) :
      bs.dropWhile p = bs := by
    cases bs with
    | nil => rfl
    | cons b bs => simp [hb b rfl]
  rw [drop_self as h.head, drop_self as.reverse, List.reverse_reverse]
  intro b hb
  rw [List.head?_reverse] at hb
  exact h.last b hb

theorem strip_bare (as : List α) : Bare p ((as.dropWhile p).reverse.dropWhile p).reverse := by
  change Bare p ((as.dropWhile p).rdropWhile p)
  constructor
  · intro a ha
    have hhead : (as.dropWhile p).head? = some a := by
      obtain ⟨bs, hbs⟩ := List.rdropWhile_prefix p (as.dropWhile p)
      rw [← hbs, List.head?_append, ha]
      rfl
    have hnot := List.head?_dropWhile_not p as
    rw [hhead] at hnot
    simpa using hnot
  · intro a ha
    have hnot := List.head?_dropWhile_not p (as.dropWhile p).reverse
    rw [List.rdropWhile, List.getLast?_reverse] at ha
    rw [ha] at hnot
    simpa using hnot

theorem strip_append (before as after : List α) (hbefore : ∀ a ∈ before, p a)
    (hafter : ∀ a ∈ after, p a) :
    (((before ++ as ++ after).dropWhile p).reverse.dropWhile p).reverse =
      ((as.dropWhile p).reverse.dropWhile p).reverse := by
  have hdrop : after.dropWhile p = [] := List.dropWhile_eq_nil_iff.mpr hafter
  rw [List.append_assoc, List.dropWhile_append_of_pos hbefore, List.dropWhile_append]
  split_ifs with hempty
  · rw [hdrop, List.isEmpty_iff.mp hempty]
  · have hreverse : ∀ a ∈ after.reverse, p a := fun a ha => hafter a (List.mem_reverse.mp ha)
    rw [List.reverse_append, List.dropWhile_append_of_pos hreverse]

theorem exists_strip (as : List α) : ∃ before after, (∀ a ∈ before, p a) ∧ (∀ a ∈ after, p a) ∧
    as = before ++ ((as.dropWhile p).reverse.dropWhile p).reverse ++ after := by
  refine ⟨as.takeWhile p, ((as.dropWhile p).reverse.takeWhile p).reverse, ?_, ?_, ?_⟩
  · intro a ha
    exact List.mem_takeWhile_imp ha
  · intro a ha
    exact List.mem_takeWhile_imp (List.mem_reverse.mp ha)
  · rw [List.append_assoc, ← List.reverse_append, List.takeWhile_append_dropWhile,
      List.reverse_reverse, List.takeWhile_append_dropWhile]

def Trimmed (s : String) : Prop := trim s = s

theorem Trimmed.bare (s : String) (h : Trimmed s) : Bare isBlank s.toList := by
  rw [← h, trim, String.toList_ofList]
  exact strip_bare isBlank s.toList

theorem trim_trimmed (s : String) : Trimmed (trim s) := by
  simp only [Trimmed, trim, String.toList_ofList]
  exact congrArg String.ofList (strip_eq_self isBlank _ (strip_bare isBlank _))

theorem trimmed_of_not_blank (s : String) (h : ∀ c ∈ s.toList, isBlank c = false) : Trimmed s := by
  have hbare : Bare isBlank s.toList := by
    constructor
    · exact fun c hc => h c (List.mem_of_head? hc)
    · exact fun c hc => h c (List.mem_of_getLast? hc)
  have hstrip : trimChars s.toList = s.toList := strip_eq_self isBlank _ hbare
  rw [Trimmed, trim, hstrip, String.ofList_toList]

theorem trim_isEmpty_iff (s : String) : (trim s).isEmpty ↔ ∀ c ∈ s.toList, isBlank c := by
  rw [trim, String.isEmpty_iff, String.ofList_eq_empty_iff]
  change (s.toList.dropWhile isBlank).rdropWhile isBlank = [] ↔ _
  rw [List.rdropWhile_eq_nil_iff]
  constructor
  · intro h
    apply List.dropWhile_eq_nil_iff.mp
    cases hd : s.toList.dropWhile isBlank with
    | nil => rfl
    | cons c cs =>
      have hnot := List.head?_dropWhile_not isBlank s.toList
      rw [hd] at h hnot
      simp [h c List.mem_cons_self] at hnot
  · intro h c hc
    exact h c (List.dropWhile_subset isBlank hc)

end BenchReport.Text
