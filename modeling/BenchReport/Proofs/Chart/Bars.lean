import BenchReport.Chart.Axis
import Mathlib.Algebra.Field.Rat
import Mathlib.Algebra.Order.Field.Basic
import Mathlib.Algebra.Order.Ring.Rat
import Mathlib.Order.CompletePartialOrder
import Mathlib.Order.Interval.Set.LinearOrder
import Mathlib.Tactic.FieldSimp
import Mathlib.Tactic.Linarith
import Mathlib.Tactic.NormNum
import Mathlib.Tactic.Ring

namespace BenchReport

def Span.interior (s : Span ℚ) : Set ℚ := Set.Ioo s.low s.high

def barMark (groupWidth : ℚ) (count tick k : ℕ) : ℚ :=
  tick - groupWidth / 2 + k * (groupWidth / count)

section

variable (w : ℚ) (count tick : ℕ)

theorem barSpan_eq_marks (series : ℕ) (hcount : 0 < count) :
    barSpan w tick series count =
      ⟨barMark w count tick series, barMark w count tick (series + 1)⟩ := by
  have hne : (count : ℚ) ≠ 0 := Nat.cast_ne_zero.mpr hcount.ne'
  have hmax : max count 1 = count := max_eq_left hcount
  simp only [barSpan, barMark, hmax, Span.mk.injEq]
  constructor <;> (push_cast; field_simp; ring)

theorem barMark_first : barMark w count tick 0 = tick - w / 2 := by
  rw [barMark, Nat.cast_zero, zero_mul, add_zero]

theorem barMark_last (hcount : 0 < count) : barMark w count tick count = tick + w / 2 := by
  have hne : (count : ℚ) ≠ 0 := Nat.cast_ne_zero.mpr hcount.ne'
  rw [barMark, mul_div_cancel₀ w hne]
  ring

theorem barMark_succ_sub (k : ℕ) :
    barMark w count tick (k + 1) - barMark w count tick k = w / count := by
  rw [barMark, barMark, Nat.cast_succ]
  ring

variable {w count}

theorem barMark_mono (hw : 0 < w) {k l : ℕ} (hkl : k ≤ l) :
    barMark w count tick k ≤ barMark w count tick l := by
  have hstep : 0 ≤ w / count := div_nonneg hw.le (Nat.cast_nonneg count)
  have hcast : (k : ℚ) ≤ l := Nat.cast_le.mpr hkl
  exact add_le_add_right (mul_le_mul_of_nonneg_right hcast hstep) _

theorem barMark_bounds (hw : 0 < w) {k : ℕ} (hcount : 0 < count) (hk : k ≤ count) :
    tick - w / 2 ≤ barMark w count tick k ∧ barMark w count tick k ≤ tick + w / 2 := by
  rw [← barMark_first w count tick, ← barMark_last w count tick hcount]
  exact ⟨barMark_mono tick hw (Nat.zero_le k), barMark_mono tick hw hk⟩

theorem barSpan_high_le_low (hw : 0 < w) (hw1 : w ≤ 1) {tick tick' series series' : ℕ}
    (hseries : series < count) (hseries' : series' < count)
    (hlater : tick < tick' ∨ tick = tick' ∧ series < series') :
    (barSpan w tick series count).high ≤ (barSpan w tick' series' count).low := by
  have hcount : 0 < count := Nat.zero_lt_of_lt hseries
  rw [barSpan_eq_marks w count tick series hcount, barSpan_eq_marks w count tick' series' hcount]
  rcases hlater with hlt | ⟨rfl, hlt⟩
  · have hcast : (tick : ℚ) + 1 ≤ tick' := by exact_mod_cast hlt
    calc barMark w count tick (series + 1) ≤ tick + w / 2 :=
          (barMark_bounds tick hw hcount hseries).2
      _ ≤ tick' - w / 2 := by linarith
      _ ≤ barMark w count tick' series' := (barMark_bounds tick' hw hcount hseries'.le).1
  · exact barMark_mono tick hw hlt

theorem Span.interior_disjoint_of_le {s s' : Span ℚ} (h : s.high ≤ s'.low) :
    Disjoint s.interior s'.interior := by
  apply Set.disjoint_left.mpr
  rintro x ⟨-, hx⟩ ⟨hx', -⟩
  exact absurd (hx.trans_le h) hx'.not_gt

theorem barSpan_interior_disjoint (hw : 0 < w) (hw1 : w ≤ 1) {tick tick' series series' : ℕ}
    (hseries : series < count) (hseries' : series' < count)
    (hne : (tick, series) ≠ (tick', series')) :
    Disjoint (barSpan w tick series count).interior (barSpan w tick' series' count).interior := by
  have hcases : (tick < tick' ∨ tick = tick' ∧ series < series') ∨
      (tick' < tick ∨ tick' = tick ∧ series' < series) := by
    rw [Ne, Prod.mk.injEq] at hne
    omega
  rcases hcases with hlater | hlater
  · exact Span.interior_disjoint_of_le (barSpan_high_le_low hw hw1 hseries hseries' hlater)
  · exact (Span.interior_disjoint_of_le
      (barSpan_high_le_low hw hw1 hseries' hseries hlater)).symm

theorem barSpan_inside_axis (hw : 0 < w) (hw1 : w < 1) {series n : ℕ} (hseries : series < count)
    (htick : tick < n) :
    (tickAxis (1 / 2) n).low < (barSpan w tick series count).low ∧
      (barSpan w tick series count).high < (tickAxis (1 / 2) n).high := by
  have hcount : 0 < count := Nat.zero_lt_of_lt hseries
  have hlow := (barMark_bounds tick hw hcount hseries.le).1
  have hhigh := (barMark_bounds tick hw hcount hseries).2
  have hcast : (tick : ℚ) + 1 ≤ n := by exact_mod_cast htick
  have htick0 : (0 : ℚ) ≤ tick := Nat.cast_nonneg tick
  rw [barSpan_eq_marks w count tick series hcount]
  simp only [tickAxis, Nat.cast_zero]
  constructor <;> linarith

end

/-- The bars of a group lie side by side from 2/5 before their tick to 2/5 behind it, all of one
width. Bars at different slots do not overlap, and all lie inside the axis of their ticks. -/
theorem bars_tile (tick series count : ℕ) (hseries : series < count) :
    ((barSpan (4 / 5 : ℚ) tick series count).high - (barSpan (4 / 5 : ℚ) tick series count).low =
        4 / 5 / count ∧ (0 : ℚ) < 4 / 5 / count) ∧
      (barSpan (4 / 5 : ℚ) tick 0 count).low = tick - 2 / 5 ∧
      (barSpan (4 / 5 : ℚ) tick (count - 1) count).high = tick + 2 / 5 ∧
      (series + 1 < count → (barSpan (4 / 5 : ℚ) tick series count).high =
        (barSpan (4 / 5 : ℚ) tick (series + 1) count).low) ∧
      (∀ tick' series', series' < count → (tick, series) ≠ (tick', series') →
        Disjoint (barSpan (4 / 5 : ℚ) tick series count).interior
          (barSpan (4 / 5 : ℚ) tick' series' count).interior) ∧
      ∀ n, tick < n →
        (tickAxis (1 / 2 : ℚ) n).low < (barSpan (4 / 5 : ℚ) tick series count).low ∧
          (barSpan (4 / 5 : ℚ) tick series count).high < (tickAxis (1 / 2 : ℚ) n).high := by
  have hcount : 0 < count := Nat.zero_lt_of_lt hseries
  have hpos : (0 : ℚ) < 4 / 5 := by norm_num
  have hlt : (4 / 5 : ℚ) < 1 := by norm_num
  have hhalf : (4 / 5 / 2 : ℚ) = 2 / 5 := by norm_num
  refine ⟨⟨?_, div_pos hpos (Nat.cast_pos.mpr hcount)⟩, ?_, ?_, ?_, ?_, ?_⟩
  · rw [barSpan_eq_marks _ count tick series hcount]
    exact barMark_succ_sub _ count tick series
  · rw [barSpan_eq_marks _ count tick 0 hcount, barMark_first, hhalf]
  · rw [barSpan_eq_marks _ count tick (count - 1) hcount, Nat.sub_add_cancel hcount,
      barMark_last _ count tick hcount, hhalf]
  · intro _
    rw [barSpan_eq_marks _ count tick series hcount, barSpan_eq_marks _ count tick _ hcount]
  · intro tick' series' hseries' hne
    exact barSpan_interior_disjoint hpos hlt.le hseries hseries' hne
  · intro n htick
    exact barSpan_inside_axis tick hpos hlt hseries htick

theorem bars_tile_second_of_three :
    barSpan (4 / 5 : ℚ) 2 1 3 = ⟨28 / 15, 32 / 15⟩ ∧
      (barSpan (4 / 5 : ℚ) 2 1 3).high = (barSpan (4 / 5 : ℚ) 2 2 3).low ∧
      Disjoint (barSpan (4 / 5 : ℚ) 2 1 3).interior (barSpan (4 / 5 : ℚ) 1 2 3).interior ∧
      (tickAxis (1 / 2 : ℚ) 3).low < (barSpan (4 / 5 : ℚ) 2 1 3).low ∧
      (barSpan (4 / 5 : ℚ) 2 1 3).high < (tickAxis (1 / 2 : ℚ) 3).high := by
  obtain ⟨-, -, -, hnext, hapart, hinside⟩ := bars_tile 2 1 3 (by decide)
  exact ⟨by decide +kernel, hnext (by decide), hapart 1 2 (by decide) (by decide),
    hinside 3 (by decide)⟩

end BenchReport
