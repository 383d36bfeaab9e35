import Mathlib.Data.Fintype.EquivFin
import Mathlib.Data.List.FinRange

namespace BenchReport

variable {α β κ : Type} {n : ℕ}

def Rearranged (σ : Equiv.Perm (Fin n)) (as bs : List α) : Prop :=
  ∃ f : Fin n → α, as = List.ofFn f ∧ bs = List.ofFn (f ∘ σ)

/-- Elements of one class, those with one `key`, stand in the same order in both lists. -/
def StablyRearranged (key : α → κ) (σ : Equiv.Perm (Fin n)) (as bs : List α) : Prop :=
  ∃ f : Fin n → α, as = List.ofFn f ∧ bs = List.ofFn (f ∘ σ) ∧
    ∀ i j, i < j → key (f (σ i)) = key (f (σ j)) → σ i < σ j

theorem StablyRearranged.rearranged {key : α → κ} {σ : Equiv.Perm (Fin n)} {as bs : List α}
    (h : StablyRearranged key σ as bs) : Rearranged σ as bs := by
  obtain ⟨f, has, hbs, -⟩ := h
  exact ⟨f, has, hbs⟩

theorem Rearranged.perm {σ : Equiv.Perm (Fin n)} {as bs : List α} (h : Rearranged σ as bs) :
    bs.Perm as := by
  obtain ⟨f, rfl, rfl⟩ := h
  exact Equiv.Perm.ofFn_comp_perm σ f

theorem StablyRearranged.map {key : α → κ} {σ : Equiv.Perm (Fin n)} {as bs : List α}
    (h : StablyRearranged key σ as bs) (g : α → β) (key' : β → κ) (hkey : ∀ a, key' (g a) = key a) :
    StablyRearranged key' σ (as.map g) (bs.map g) := by
  obtain ⟨f, rfl, rfl, hstable⟩ := h
  refine ⟨g ∘ f, List.map_ofFn, List.map_ofFn, ?_⟩
  intro i j hij heq
  apply hstable i j hij
  simpa only [Function.comp_apply, hkey] using heq

theorem filter_finRange_perm (σ : Equiv.Perm (Fin n)) (p : Fin n → Bool)
    (h : ∀ i j, i < j → p (σ i) → p (σ j) → σ i < σ j) :
    ((List.finRange n).filter (p ∘ σ)).map σ = (List.finRange n).filter p := by
  have hleft : (((List.finRange n).filter (p ∘ σ)).map σ).Pairwise (· < ·) := by
    apply List.pairwise_map.mpr
    have hasc := (List.pairwise_lt_finRange n).filter (p ∘ σ)
    refine hasc.imp_of_mem ?_
    intro i j hi hj hij
    exact h i j hij (List.mem_filter.mp hi).2 (List.mem_filter.mp hj).2
  have hright : ((List.finRange n).filter p).Pairwise (· < ·) :=
    (List.pairwise_lt_finRange n).filter p
  have hmem (k : Fin n) : k ∈ ((List.finRange n).filter (p ∘ σ)).map σ ↔
      k ∈ (List.finRange n).filter p := by
    simp only [List.mem_map, List.mem_filter, List.mem_finRange, true_and, Function.comp_apply]
    constructor
    · rintro ⟨i, hi, rfl⟩
      exact hi
    · intro hk
      refine ⟨σ.symm k, ?_, σ.apply_symm_apply k⟩
      rwa [σ.apply_symm_apply]
  have hperm := (List.perm_ext_iff_of_nodup (hleft.imp ne_of_lt) (hright.imp ne_of_lt)).mpr hmem
  apply List.Perm.eq_of_pairwise _ hleft hright hperm
  intro i j _ _ hij hji
  exact absurd hij hji.not_gt

theorem StablyRearranged.filter_eq {key : α → κ} {σ : Equiv.Perm (Fin n)} {as bs : List α}
    (h : StablyRearranged key σ as bs) (p : α → Bool)
    (hclass : ∀ a b, p a → p b → key a = key b) : bs.filter p = as.filter p := by
  obtain ⟨f, rfl, rfl, hstable⟩ := h
  have hpicked := filter_finRange_perm σ (p ∘ f) fun i j hij hi hj =>
    hstable i j hij (hclass _ _ hi hj)
  rw [List.ofFn_eq_map, List.ofFn_eq_map, List.filter_map, List.filter_map, ← hpicked, List.map_map]
  rfl

end BenchReport
