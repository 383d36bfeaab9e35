import BenchReport.Proofs.Double.Order
import BenchReport.Proofs.Table.Loading

namespace BenchReport

namespace Double

theorem isFinite_of_le_one (x : Double) (hnonneg : 0 ≤ x) (hle : x ≤ 1) : x.isFinite := by
  obtain ⟨-, -, hlow⟩ := hnonneg
  obtain ⟨-, -, hhigh⟩ := hle
  have hzero : (0 : Double).level = 0 := by decide
  have hone : (1 : Double).level = 0x3ff0000000000000 := by decide
  rw [hzero] at hlow
  rw [hone] at hhigh
  unfold level at hlow hhigh
  unfold isFinite infinity
  apply decide_eq_true
  split_ifs at hlow hhigh <;> omega

theorem not_negative_of_nonneg (x : Double) (hnonneg : 0 ≤ x) (h : x.magnitude ≠ 0) :
    x.negative = false := by
  obtain ⟨-, -, hlow⟩ := hnonneg
  have hzero : (0 : Double).level = 0 := by decide
  rw [hzero] at hlow
  unfold level at hlow
  split_ifs at hlow with hneg
  · omega
  · simpa using hneg

end Double

namespace Table

def IsKeyText (text : String) : Prop :=
  ∃ x, Numeral.read? text.toList = some x ∧ 0 ≤ x ∧ x ≤ 1

def IsMetricText (text : String) : Prop := text = "" ∨ ∃ x, Numeral.read? text.toList = some x

structure IsKey (text : String) (y : Double) : Prop where
  equal : ∃ x, Numeral.read? text.toList = some x ∧ x ≤ y ∧ y ≤ x
  notNegative : y.negative = false
  notNaN : y.isNaN = false

def IsValue (text : String) (value : Option Double) : Prop :=
  ∀ x, value = some x ↔ text ≠ "" ∧ Numeral.read? text.toList = some x ∧ x.isFinite

theorem read?_empty : Numeral.read? "".toList = none := by decide

theorem readCell_eq_ok_iff (line : Nat) (column text : String) (value : Option Double) :
    readCell line column text = .ok value ↔ IsMetricText text ∧ IsValue text value := by
  have hvalue (v w : Option Double) (h : IsValue text v) : IsValue text w ↔ v = w := by
    constructor
    · intro hw
      apply Option.ext
      intro x
      rw [h x, hw x]
    · rintro rfl
      exact h
  unfold readCell
  split_ifs with hempty
  · obtain rfl : text = "" := String.isEmpty_iff.mp hempty
    have hnone : IsValue "" none := by simp [IsValue]
    rw [hvalue none value hnone, Except.ok.injEq]
    simp [IsMetricText]
  · have hne : text ≠ "" := mt String.isEmpty_iff.mpr hempty
    cases hread : Numeral.read? text.toList with
    | none => simp [IsMetricText, hne, hread]
    | some x =>
      have hsome : IsValue text (if x.isFinite then some x else none) := by
        intro y
        rw [hread, Option.some.injEq]
        split_ifs with hfinite
        · constructor
          · rintro ⟨⟩
            exact ⟨hne, rfl, hfinite⟩
          · rintro ⟨-, rfl, -⟩
            rfl
        · simp only [false_iff]
          rintro ⟨-, rfl, hy⟩
          exact hfinite hy
      rw [hvalue _ value hsome, Except.ok.injEq]
      simp [IsMetricText, hread]

theorem readCell_eq_error_iff (line : Nat) (column text : String) (f : DataFault) :
    readCell line column text = .error f ↔ ¬ IsMetricText text ∧ f = .invalidValue line column text := by
  unfold readCell
  split_ifs with hempty
  · simp [IsMetricText, String.isEmpty_iff.mp hempty]
  · have hne : text ≠ "" := mt String.isEmpty_iff.mpr hempty
    cases hread : Numeral.read? text.toList with
    | none => simp [IsMetricText, hne, hread, eq_comm]
    | some x => simp [IsMetricText, hread]

theorem exists_readCell_iff (line : Nat) (column text : String) :
    (∃ value, readCell line column text = .ok value) ↔ IsMetricText text := by
  constructor
  · rintro ⟨value, h⟩
    exact ((readCell_eq_ok_iff line column text value).mp h).1
  · intro h
    cases hcell : readCell line column text with
    | ok value => exact ⟨value, rfl⟩
    | error f => exact absurd h ((readCell_eq_error_iff line column text f).mp hcell).1

inductive KeyFault (line : Nat) (column text : String) : DataFault → Prop
  | noNumber : (∀ x, Numeral.read? text.toList = some x → x.isFinite = false) →
    KeyFault line column text (.invalidValue line column text)
  | outside (x : Double) : Numeral.read? text.toList = some x → x.isFinite → ¬ (0 ≤ x ∧ x ≤ 1) →
    KeyFault line column text (.outOfRange line column x)

theorem readFraction_eq (line : Nat) (column text : String) :
    readFraction line column text =
      match Numeral.read? text.toList with
      | none => .error (.invalidValue line column text)
      | some x =>
        if x.isFinite then
          if 0 ≤ x ∧ x ≤ 1 then .ok (if x.magnitude = 0 then 0 else x)
          else .error (.outOfRange line column x)
        else .error (.invalidValue line column text) := by
  unfold readFraction readCell
  split_ifs with hempty
  · rw [String.isEmpty_iff.mp hempty, read?_empty]
    rfl
  · cases hread : Numeral.read? text.toList with
    | none => rfl
    | some x =>
      by_cases hfinite : x.isFinite
      · simp only [hfinite, if_true]
        rfl
      · simp only [hfinite]
        rfl

theorem readFraction_eq_ok_iff (line : Nat) (column text : String) (y : Double) :
    readFraction line column text = .ok y ↔ IsKeyText text ∧ IsKey text y := by
  rw [readFraction_eq]
  constructor
  · intro h
    cases hread : Numeral.read? text.toList with
    | none => simp [hread] at h
    | some x =>
      simp only [hread] at h
      split_ifs at h with hfinite hrange hzero
      · obtain rfl : 0 = y := Except.ok.inj h
        obtain ⟨-, hnan, -⟩ := hrange.1
        have hlevel : x.level = 0 := by simp [Double.level, hzero]
        refine ⟨⟨x, hread, hrange⟩, ⟨x, hread, ⟨hnan, by decide, ?_⟩, hrange.1⟩, by decide, by decide⟩
        rw [hlevel]
        decide
      · obtain rfl : x = y := Except.ok.inj h
        obtain ⟨-, hnan, -⟩ := hrange.1
        have hself : x ≤ x := ⟨hnan, hnan, Int.le_refl _⟩
        exact ⟨⟨x, hread, hrange⟩, ⟨x, hread, hself, hself⟩, x.not_negative_of_nonneg hrange.1 hzero,
          hnan⟩
  · rintro ⟨⟨x, hread, hnonneg, hle⟩, ⟨x', hread', hxy, hyx⟩, hneg, -⟩
    obtain rfl : x = x' := Option.some.inj (hread.symm.trans hread')
    have hlevel : x.level = y.level := Int.le_antisymm hxy.2.2 hyx.2.2
    simp only [hread, x.isFinite_of_le_one hnonneg hle, if_true, hnonneg, hle, and_self,
      Except.ok.injEq]
    -- both are not negative then, and have one magnitude
    split_ifs with hzero
    · apply Double.ext_magnitude
      · rw [hneg]
        decide
      · have hx : x.level = 0 := by simp [Double.level, hzero]
        rw [hx, Double.level, hneg, if_neg Bool.false_ne_true] at hlevel
        have hy : y.magnitude = 0 := by omega
        rw [hy]
        decide
    · have hxneg := x.not_negative_of_nonneg hnonneg hzero
      apply Double.ext_magnitude
      · rw [hxneg, hneg]
      · rw [Double.level, Double.level, hxneg, hneg, if_neg Bool.false_ne_true] at hlevel
        omega

theorem readFraction_eq_error_iff (line : Nat) (column text : String) (f : DataFault) :
    readFraction line column text = .error f ↔ KeyFault line column text f := by
  rw [readFraction_eq]
  constructor
  · intro h
    cases hread : Numeral.read? text.toList with
    | none =>
      simp only [hread, Except.error.injEq] at h
      rw [← h]
      exact .noNumber fun x hx => by simp [hread] at hx
    | some x =>
      simp only [hread] at h
      split_ifs at h with hfinite hrange
      · obtain rfl := Except.error.inj h
        exact .outside x hread hfinite hrange
      · obtain rfl := Except.error.inj h
        refine .noNumber fun y hy => ?_
        obtain rfl : x = y := Option.some.inj (hread.symm.trans hy)
        simpa using hfinite
  · intro h
    cases h with
    | noNumber hall =>
      cases hread : Numeral.read? text.toList with
      | none => rfl
      | some x => simp [hall x hread]
    | outside x hread hfinite hrange => simp only [hread, hfinite, if_true, hrange, if_false]

theorem exists_readFraction_iff (line : Nat) (column text : String) :
    (∃ y, readFraction line column text = .ok y) ↔ IsKeyText text := by
  constructor
  · rintro ⟨y, h⟩
    exact ((readFraction_eq_ok_iff line column text y).mp h).1
  · rintro ⟨x, hread, hrange⟩
    rw [readFraction_eq]
    simp only [hread, x.isFinite_of_le_one hrange.1 hrange.2, if_true]
    rw [if_pos hrange]
    exact ⟨_, rfl⟩

end Table

end BenchReport
