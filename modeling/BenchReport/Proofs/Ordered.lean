import BenchReport.Ordered
import Mathlib.Algebra.BigOperators.Group.List.Lemmas
import Mathlib.Algebra.GroupWithZero.Nat

namespace BenchReport.Ordered

open Std

variable {α β γ : Type} [Ord α]

def Ascending (as : List α) : Prop := as.Pairwise fun a b => compare a b = .lt

theorem forall_update {P : β → Prop} (zero : β) (change : β → β) (a : α) (as : List (α × β))
    (hzero : P (change zero)) (hchange : ∀ b, P b → P (change b)) (has : ∀ e ∈ as, P e.2) :
    ∀ e ∈ update zero change a as, P e.2 := by
  induction as with
  | nil => exact List.forall_mem_singleton.mpr hzero
  | cons e as ih =>
    obtain ⟨he, has'⟩ := List.forall_mem_cons.mp has
    unfold update
    split
    · exact List.forall_mem_cons.mpr ⟨hzero, has⟩
    · exact List.forall_mem_cons.mpr ⟨hchange _ he, has'⟩
    · exact List.forall_mem_cons.mpr ⟨he, ih has'⟩

theorem mem_of_find? {a : α} {as : List (α × β)} {b : β} (h : find? a as = some b) :
    ∃ c, (c, b) ∈ as := by
  induction as with
  | nil => cases h
  | cons e as ih =>
    unfold find? at h
    split at h
    · cases h
    · obtain rfl := Option.some.inj h
      exact ⟨e.1, List.mem_cons_self⟩
    · obtain ⟨c, hc⟩ := ih h
      exact ⟨c, List.mem_cons_of_mem e hc⟩

theorem insert_perm (a : α) (as : List α) : (insert a as).Perm (a :: as) := by
  induction as with
  | nil => exact .refl _
  | cons b bs ih =>
    unfold insert
    split_ifs
    · exact .refl _
    · exact (ih.cons b).trans (.swap a b bs)

theorem sort_perm (as : List α) : (sort as).Perm as := by
  induction as with
  | nil => exact .refl _
  | cons a as ih => exact (insert_perm a (sort as)).trans (ih.cons a)

def insertKey (a : α) : List α → List α
  | [] => [a]
  | b :: bs =>
    match compare a b with
    | .lt => a :: b :: bs
    | .eq => b :: bs
    | .gt => b :: insertKey a bs

section Lawful

variable [LawfulEqOrd α]

theorem mem_dedupAfter (last a : α) (as : List α) :
    a = last ∨ a ∈ dedupAfter last as ↔ a = last ∨ a ∈ as := by
  induction as generalizing last with
  | nil => simp [dedupAfter]
  | cons b bs ih =>
    unfold dedupAfter
    split_ifs with h
    · obtain rfl := LawfulEqOrd.eq_of_compare h
      rw [ih, List.mem_cons, or_self_left]
    · rw [List.mem_cons, ih, List.mem_cons]

theorem mem_distinct (a : α) (as : List α) : a ∈ distinct as ↔ a ∈ as := by
  rw [distinct, ← (sort_perm as).mem_iff]
  cases sort as with
  | nil => rfl
  | cons b bs => rw [dedup, List.mem_cons, mem_dedupAfter, List.mem_cons]

theorem mem_insertKey (a c : α) (bs : List α) : c ∈ insertKey a bs ↔ c = a ∨ c ∈ bs := by
  induction bs with
  | nil => simp [insertKey]
  | cons b bs ih =>
    unfold insertKey
    split
    · simp
    · rename_i h
      rw [LawfulEqOrd.eq_of_compare h]
      simp
    · rw [List.mem_cons, ih, List.mem_cons]
      exact or_left_comm

end Lawful

variable [TransOrd α]

def Sorted (as : List α) : Prop := as.Pairwise fun a b => (compare a b).isLE

theorem isLE_of_not_isLE {a b : α} (h : ¬ (compare a b).isLE) : (compare b a).isLE := by
  have hgt : compare a b = .gt := by
    cases hcmp : compare a b <;> simp [hcmp] at h ⊢
  rw [OrientedCmp.lt_of_gt hgt]
  rfl

theorem insert_sorted (a : α) (as : List α) (h : Sorted as) : Sorted (insert a as) := by
  induction as with
  | nil => exact List.pairwise_singleton _ _
  | cons b bs ih =>
    obtain ⟨hb, hbs⟩ := List.pairwise_cons.mp h
    unfold insert
    split_ifs with hab
    · refine List.pairwise_cons.mpr ⟨?_, h⟩
      intro c hc
      rcases List.mem_cons.mp hc with rfl | hc
      · exact hab
      · exact TransCmp.isLE_trans hab (hb c hc)
    · refine List.pairwise_cons.mpr ⟨?_, ih hbs⟩
      intro c hc
      rcases List.mem_cons.mp ((insert_perm a bs).mem_iff.mp hc) with rfl | hc
      · exact isLE_of_not_isLE hab
      · exact hb c hc

theorem sort_sorted (as : List α) : Sorted (sort as) := by
  induction as with
  | nil => exact List.Pairwise.nil
  | cons a as ih => exact insert_sorted a (sort as) ih

theorem dedupAfter_ascending (last : α) (as : List α) (h : Sorted (last :: as)) :
    Ascending (last :: dedupAfter last as) := by
  induction as generalizing last with
  | nil => exact List.pairwise_singleton _ _
  | cons a as ih =>
    obtain ⟨hlast, htail⟩ := List.pairwise_cons.mp h
    unfold dedupAfter
    split_ifs with heq
    · exact ih last (List.pairwise_cons.mpr
        ⟨fun c hc => hlast c (List.mem_cons_of_mem a hc), (List.pairwise_cons.mp htail).2⟩)
    · -- the elements ascend, so what equals `last` stands right behind it
      have hrest := ih a htail
      have hfirst : compare last a = .lt := by
        have hle := hlast a List.mem_cons_self
        cases hcmp : compare last a with
        | lt => rfl
        | eq => exact absurd hcmp heq
        | gt => simp [hcmp] at hle
      refine List.pairwise_cons.mpr ⟨?_, hrest⟩
      intro c hc
      rcases List.mem_cons.mp hc with rfl | hc
      · exact hfirst
      · exact TransCmp.lt_trans hfirst ((List.pairwise_cons.mp hrest).1 c hc)

theorem distinct_ascending (as : List α) : Ascending (distinct as) := by
  have hsorted := sort_sorted as
  rw [distinct]
  cases hsort : sort as with
  | nil => exact List.Pairwise.nil
  | cons a rest => exact dedupAfter_ascending a rest (hsort ▸ hsorted)

theorem Ascending.nodup {as : List α} (h : Ascending as) : as.Nodup := by
  refine List.Pairwise.imp ?_ h
  rintro a b hab rfl
  simp at hab

theorem Ascending.ext {as bs : List α} (ha : Ascending as) (hb : Ascending bs)
    (h : ∀ c, c ∈ as ↔ c ∈ bs) : as = bs := by
  have hperm := (List.perm_ext_iff_of_nodup ha.nodup hb.nodup).mpr h
  refine List.Perm.eq_of_pairwise ?_ ha hb hperm
  intro a b _ _ hab hba
  exact absurd hba (OrientedCmp.not_lt_of_lt hab)

variable [LawfulEqOrd α]

theorem insertKey_ascending (a : α) (bs : List α) (h : Ascending bs) :
    Ascending (insertKey a bs) := by
  induction bs with
  | nil => exact List.pairwise_singleton _ _
  | cons b bs ih =>
    obtain ⟨hb, hbs⟩ := List.pairwise_cons.mp h
    unfold insertKey
    split
    · rename_i hab
      refine List.pairwise_cons.mpr ⟨?_, h⟩
      intro c hc
      rcases List.mem_cons.mp hc with rfl | hc
      · exact hab
      · exact TransCmp.lt_trans hab (hb c hc)
    · exact h
    · rename_i hab
      refine List.pairwise_cons.mpr ⟨?_, ih hbs⟩
      intro c hc
      rcases (mem_insertKey a c bs).mp hc with rfl | hc
      · exact OrientedCmp.lt_of_gt hab
      · exact hb c hc

theorem distinct_congr (as bs : List α) (h : ∀ a, a ∈ as ↔ a ∈ bs) : distinct as = distinct bs := by
  apply (distinct_ascending as).ext (distinct_ascending bs)
  intro a
  rw [mem_distinct, mem_distinct, h]

theorem distinct_append_singleton (as : List α) (a : α) :
    distinct (as ++ [a]) = insertKey a (distinct as) := by
  apply (distinct_ascending _).ext (insertKey_ascending a _ (distinct_ascending as))
  intro c
  simp [mem_insertKey, mem_distinct, or_comm]

variable [DecidableEq α]

theorem sum_length_filter (key : β → α) (ys : List β) :
    ((distinct (ys.map key)).map fun a => (ys.filter (key · = a)).length).sum = ys.length := by
  have hperm : (distinct (ys.map key)).Perm (ys.map key).dedup := by
    apply (List.perm_ext_iff_of_nodup (distinct_ascending _).nodup (List.nodup_dedup _)).mpr
    intro a
    rw [mem_distinct, List.mem_dedup]
  have hcount (a : α) : (ys.filter (key · = a)).length = (ys.map key).count a := by
    rw [List.count, List.countP_map, List.countP_eq_length_filter]
    rfl
  calc ((distinct (ys.map key)).map fun a => (ys.filter (key · = a)).length).sum
      = ((ys.map key).dedup.map fun a => (ys.map key).count a).sum := by
        simp only [hcount, (hperm.map _).sum_eq]
    _ = ys.length := by rw [List.sum_map_count_dedup_eq_length, List.length_map]

theorem update_map (zero : β) (change : β → β) (a : α) (as : List α) (f : α → β)
    (has : Ascending as) (hzero : a ∉ as → f a = zero) :
    update zero change a (as.map fun b => (b, f b)) =
      (insertKey a as).map fun b => (b, if b = a then change (f a) else f b) := by
  have hkeep (bs : List α) (hbs : a ∉ bs) : (bs.map fun b => (b, f b)) =
      bs.map fun b => (b, if b = a then change (f a) else f b) := by
    apply List.map_congr_left
    intro b hb
    have hne : b ≠ a := fun e => hbs (e ▸ hb)
    rw [if_neg hne]
  induction as with
  | nil => simp [update, insertKey, hzero]
  | cons b bs ih =>
    obtain ⟨hb, hbs⟩ := List.pairwise_cons.mp has
    rw [List.map_cons, update, insertKey]
    cases hab : compare a b with
    | lt =>
      have hout : a ∉ b :: bs := by
        intro hmem
        rcases List.mem_cons.mp hmem with rfl | hmem
        · simp at hab
        · exact absurd (hb a hmem) (OrientedCmp.not_lt_of_lt hab)
      have hrest := hkeep (b :: bs) hout
      simp only [List.map_cons, if_true, hzero hout] at hrest ⊢
      rw [hrest]
    | eq =>
      obtain rfl := LawfulEqOrd.eq_of_compare hab
      have hout : a ∉ bs := fun hmem => by simpa using hb a hmem
      simp only [List.map_cons, if_true, hkeep bs hout]
    | gt =>
      have hne : b ≠ a := by
        rintro rfl
        simp at hab
      have hmem : a ∉ bs → a ∉ b :: bs := fun h => List.not_mem_cons_of_ne_of_not_mem hne.symm h
      simp only [List.map_cons, if_neg hne, ih hbs (fun h => hzero (hmem h))]

theorem find?_map (as : List α) (f : α → β) (a : α) (has : Ascending as) :
    find? a (as.map fun b => (b, f b)) = if a ∈ as then some (f a) else none := by
  induction as with
  | nil => rfl
  | cons b bs ih =>
    obtain ⟨hb, hbs⟩ := List.pairwise_cons.mp has
    rw [List.map_cons, find?]
    cases hab : compare a b with
    | lt =>
      have hout : a ∉ b :: bs := by
        intro hmem
        rcases List.mem_cons.mp hmem with rfl | hmem
        · simp at hab
        · exact absurd (hb a hmem) (OrientedCmp.not_lt_of_lt hab)
      rw [if_neg hout]
    | eq =>
      obtain rfl := LawfulEqOrd.eq_of_compare hab
      rw [if_pos List.mem_cons_self]
    | gt =>
      have hne : a ≠ b := by
        rintro rfl
        simp at hab
      simp only [List.mem_cons, hne, false_or, ih hbs]

/-- The elements under each of their keys, added up from `zero`. -/
def collect (key : β → α) (zero : γ) (add : γ → β → γ) (ys : List β) : List (α × γ) :=
  (distinct (ys.map key)).map fun a => (a, (ys.filter (key · = a)).foldl add zero)

theorem find?_collect (key : β → α) (zero : γ) (add : γ → β → γ) (ys : List β) (a : α) :
    find? a (collect key zero add ys) =
      if a ∈ ys.map key then some ((ys.filter (key · = a)).foldl add zero) else none := by
  rw [collect, find?_map _ _ _ (distinct_ascending _)]
  exact if_congr (mem_distinct a _) rfl rfl

omit [TransOrd α] in
theorem collect_eq_nil_iff (key : β → α) (zero : γ) (add : γ → β → γ) (ys : List β) :
    collect key zero add ys = [] ↔ ys = [] := by
  rw [collect, List.map_eq_nil_iff, List.eq_nil_iff_forall_not_mem, List.eq_nil_iff_forall_not_mem]
  simp only [mem_distinct, List.mem_map]
  constructor
  · intro h y hy
    exact h (key y) ⟨y, hy, rfl⟩
  · rintro h a ⟨y, hy, -⟩
    exact h y hy

theorem update_collect (key : β → α) (zero : γ) (add : γ → β → γ) (ys : List β) (y : β) :
    update zero (add · y) (key y) (collect key zero add ys) = collect key zero add (ys ++ [y]) := by
  have hzero : key y ∉ distinct (ys.map key) → (ys.filter (key · = key y)).foldl add zero = zero := by
    intro hout
    have hnone : ys.filter (key · = key y) = [] := by
      apply List.filter_eq_nil_iff.mpr
      intro z hz hkey
      apply hout
      rw [mem_distinct, ← of_decide_eq_true hkey]
      exact List.mem_map_of_mem hz
    rw [hnone, List.foldl_nil]
  rw [collect, update_map _ _ _ _ _ (distinct_ascending _) hzero, collect, List.map_append,
    List.map_singleton, distinct_append_singleton]
  apply List.map_congr_left
  intro a _
  by_cases ha : key y = a
  · simp [ha]
  · simp [ha, Ne.symm ha]

theorem foldl_update (key : β → α) (zero : γ) (add : γ → β → γ) (ys : List β) :
    ys.foldl (fun groups y => update zero (add · y) (key y) groups) [] = collect key zero add ys := by
  -- `done` are the elements that have been gathered
  have hrun (done rest : List β) :
      rest.foldl (fun groups y => update zero (add · y) (key y) groups) (collect key zero add done) =
        collect key zero add (done ++ rest) := by
    induction rest generalizing done with
    | nil => rw [List.append_nil, List.foldl_nil]
    | cons y rest ih =>
      rw [List.foldl_cons, update_collect, ih, List.append_assoc, List.singleton_append]
  exact hrun [] ys

end BenchReport.Ordered
