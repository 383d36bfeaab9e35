import BenchReport.Chart.Axis
import BenchReport.Proofs.Double.Comparison

namespace BenchReport

variable {α : Type}

namespace Panel

def pointValues (p : Panel α) : Set α := {x | ∃ s ∈ p.series, ∃ q ∈ s.points, q.value = x}

def shown (p : Panel α) (reference : Option α) : Set α := p.pointValues ∪ {x | reference = some x}

def top [NatCast α] [Max α] (p : Panel α) (reference : Option α) : α :=
  max p.maxValue (reference.getD (0 : Nat))

theorem mem_values_iff (p : Panel α) (x : α) : x ∈ p.values ↔ x ∈ p.pointValues := by
  simp [values, pointValues]

theorem forall_shown_iff (p : Panel α) (reference : Option α) (P : α → Prop) :
    (∀ x ∈ p.shown reference, P x) ↔ ∀ x ∈ p.values ++ reference.toList, P x := by
  simp [shown, p.mem_values_iff]

end Panel

section Order

variable [NatCast α] [LE α] [LT α] [Max α]

structure InLine (P : α → Prop) : Prop where
  zero : P (0 : Nat)
  zero_lt_one : ((0 : Nat) : α) < ((1 : Nat) : α)
  le_refl : ∀ x, P x → x ≤ x
  le_trans : ∀ x y z : α, x ≤ y → y ≤ z → x ≤ z
  le_of_lt : ∀ x y : α, x < y → x ≤ y
  lt_of_lt_of_le : ∀ x y z : α, x < y → y ≤ z → x < z
  lt_irrefl : ∀ x : α, ¬ x < x
  le_of_not_lt : ∀ x y, P x → P y → ¬ x < y → y ≤ x
  max_cases : ∀ x y, P x → P y → max x y = x ∧ y ≤ x ∨ max x y = y ∧ x ≤ y

namespace InLine

variable {P : α → Prop} (h : InLine P)

include h

theorem isGreatest_union {s t : Set α} {a b : α} (hs : ∀ x ∈ s, P x) (ht : ∀ x ∈ t, P x)
    (ha : IsGreatest s a) (hb : IsGreatest t b) : IsGreatest (s ∪ t) (max a b) := by
  have htrans := h.le_trans
  rcases h.max_cases a b (hs a ha.1) (ht b hb.1) with ⟨hmax, hle⟩ | ⟨hmax, hle⟩
  · rw [hmax]
    refine ⟨.inl ha.1, ?_⟩
    rintro x (hx | hx)
    · exact ha.2 hx
    · exact htrans x b a (hb.2 hx) hle
  · rw [hmax]
    refine ⟨.inr hb.1, ?_⟩
    rintro x (hx | hx)
    · exact htrans x a b (ha.2 hx) hle
    · exact hb.2 hx

theorem isGreatest_self (x : α) (hx : P x) : IsGreatest {x} x := by
  refine ⟨rfl, ?_⟩
  rintro y rfl
  exact h.le_refl y hx

theorem isGreatest_foldl_max (start : α) (xs : List α) (hxs : ∀ x ∈ start :: xs, P x) :
    IsGreatest {x | x ∈ start :: xs} (xs.foldl max start) := by
  induction xs using List.reverseRecOn with
  | nil => simpa using h.isGreatest_self start (hxs start List.mem_cons_self)
  | append_singleton xs x ih =>
    have hinit : ∀ y ∈ start :: xs, P y := fun y hy => hxs y (List.mem_append_left [x] hy)
    have hlast : P x := hxs x (by simp)
    have hset : {y | y ∈ start :: (xs ++ [x])} = {y | y ∈ start :: xs} ∪ {x} := by
      ext y
      simp [or_comm, or_left_comm]
    rw [List.foldl_append, hset]
    exact h.isGreatest_union hinit (by simpa using hlast) (ih hinit) (h.isGreatest_self x hlast)

variable (p : Panel α) (reference : Option α) (hshown : ∀ x ∈ p.shown reference, P x)

include hshown

theorem isGreatest_maxValue : IsGreatest (insert ((0 : Nat) : α) p.pointValues) p.maxValue := by
  have hset : insert ((0 : Nat) : α) p.pointValues = {x | x ∈ ((0 : Nat) : α) :: p.values} := by
    ext x
    simp [p.mem_values_iff]
  rw [hset]
  apply h.isGreatest_foldl_max
  intro x hx
  rcases List.mem_cons.mp hx with rfl | hx
  · exact h.zero
  · exact hshown x (.inl ((p.mem_values_iff x).mp hx))

theorem isGreatest_top :
    IsGreatest (insert ((0 : Nat) : α) (p.shown reference)) (p.top reference) := by
  have hset : insert ((0 : Nat) : α) (p.shown reference) =
      insert ((0 : Nat) : α) p.pointValues ∪ {reference.getD (0 : Nat)} := by
    ext x
    cases reference with
    | none => simp [Panel.shown]
    | some y => simp [Panel.shown, or_left_comm]
  have hline : P (reference.getD (0 : Nat)) := by
    cases reference with
    | none => exact h.zero
    | some y => exact hshown y (.inr rfl)
  rw [hset]
  apply h.isGreatest_union
  · rintro x (rfl | hx)
    · exact h.zero
    · exact hshown x (.inl hx)
  · rintro x rfl
    exact hline
  · exact h.isGreatest_maxValue p reference hshown
  · exact h.isGreatest_self _ hline

end InLine

end Order

structure Span.Covers [NatCast α] [LE α] [LT α] (axis : Span α) (shown : Set α) : Prop where
  low : axis.low = (0 : Nat)
  low_lt_high : axis.low < axis.high
  reaches : ∀ x ∈ shown, x ≤ axis.high
  high_eq_one : (∀ x ∈ shown, x ≤ ((0 : Nat) : α)) → axis.high = (1 : Nat)

section Axis

variable [NatCast α] [LT α] [DecidableLT α] [Max α] [Mul α] (headroom : α) (kind : ChartKind)
  (hkind : kind ≠ .utilization) (p : Panel α) (reference : Option α)

include hkind

theorem valueAxis_of_pos (hpos : ((0 : Nat) : α) < p.top reference) :
    valueAxis headroom kind reference p = ⟨(0 : Nat), p.top reference * headroom⟩ := by
  unfold valueAxis
  exact (if_neg hkind).trans (if_pos hpos)

theorem valueAxis_of_not_pos (hpos : ¬ ((0 : Nat) : α) < p.top reference) :
    valueAxis headroom kind reference p = ⟨(0 : Nat), (1 : Nat)⟩ := by
  unfold valueAxis
  exact (if_neg hkind).trans (if_neg hpos)

theorem valueAxis_covers [LE α] {P : α → Prop} (h : InLine P)
    (hshown : ∀ x ∈ p.shown reference, P x)
    (hroom : ∀ x ∈ p.shown reference, ((0 : Nat) : α) < x → x ≤ x * headroom) :
    (valueAxis headroom kind reference p).Covers (p.shown reference) := by
  obtain ⟨hmem, hupper⟩ := h.isGreatest_top p reference hshown
  by_cases hpos : ((0 : Nat) : α) < p.top reference
  · have htop : p.top reference ∈ p.shown reference := by
      refine hmem.resolve_left ?_
      intro heq
      rw [heq] at hpos
      exact h.lt_irrefl _ hpos
    have hhigh := hroom _ htop hpos
    rw [valueAxis_of_pos headroom kind hkind p reference hpos]
    refine ⟨rfl, h.lt_of_lt_of_le _ _ _ hpos hhigh, ?_, ?_⟩
    · intro x hx
      exact h.le_trans _ _ _ (hupper (Set.mem_insert_of_mem _ hx)) hhigh
    · intro hnone
      exact absurd (h.lt_of_lt_of_le _ _ _ hpos (hnone _ htop)) (h.lt_irrefl _)
  · have htop : P (p.top reference) := by
      rcases hmem with heq | hmem
      · rw [heq]
        exact h.zero
      · exact hshown _ hmem
    have hzero := h.le_of_not_lt _ _ h.zero htop hpos
    have hone := h.le_of_lt _ _ h.zero_lt_one
    rw [valueAxis_of_not_pos headroom kind hkind p reference hpos]
    refine ⟨rfl, h.zero_lt_one, ?_, fun _ => rfl⟩
    intro x hx
    have hle := hupper (Set.mem_insert_of_mem _ hx)
    exact h.le_trans _ _ _ (h.le_trans _ _ _ hle hzero) hone

end Axis

theorem inLine_rat : InLine fun _ : ℚ => True where
  zero := trivial
  zero_lt_one := Nat.cast_lt.mpr Nat.zero_lt_one
  le_refl _ _ := le_rfl
  le_trans _ _ _ := le_trans
  le_of_lt _ _ := le_of_lt
  lt_of_lt_of_le _ _ _ := lt_of_lt_of_le
  lt_irrefl := lt_irrefl
  le_of_not_lt _ _ _ _ := le_of_not_gt
  max_cases x y _ _ := (max_cases x y).imp_right fun ⟨hmax, hlt⟩ => ⟨hmax, hlt.le⟩

theorem valueAxis_above_rat (kind : ChartKind) (hkind : kind ≠ .utilization) (p : Panel ℚ)
    (reference : Option ℚ) {x y : ℚ} (hx : x ∈ p.shown reference) (hy : y ∈ p.shown reference)
    (hpos : 0 < y) : x < (valueAxis (13 / 10) kind reference p).high := by
  obtain ⟨-, hupper⟩ := inLine_rat.isGreatest_top p reference fun _ _ => trivial
  have hxtop : x ≤ p.top reference := hupper (Set.mem_insert_of_mem _ hx)
  have htop : 0 < p.top reference := hpos.trans_le (hupper (Set.mem_insert_of_mem _ hy))
  rw [valueAxis_of_pos _ kind hkind p reference (Nat.cast_zero (R := ℚ) ▸ htop)]
  change x < p.top reference * (13 / 10)
  linarith

namespace Double

theorem max_eq {x y : Double} (hx : x.isNaN = false) (hy : y.isNaN = false) :
    max x y = if x < y then y else x := by
  change (if x.isNaN then y else if y.isNaN then x else if x < y then y else x) = _
  rw [hx, hy, if_neg Bool.false_ne_true, if_neg Bool.false_ne_true]

theorem le_of_not_lt {x y : Double} (hx : x.isNaN = false) (hy : y.isNaN = false) (h : ¬ x < y) :
    y ≤ x :=
  ⟨hy, hx, Int.not_lt.mp fun hlevel => h ⟨hx, hy, hlevel⟩⟩

theorem inLine : InLine fun x : Double => x.isNaN = false where
  zero := by decide
  zero_lt_one := by decide
  le_refl _ hx := ⟨hx, hx, le_rfl⟩
  le_trans _ _ _ hxy hyz := ⟨hxy.1, hyz.2.1, hxy.2.2.trans hyz.2.2⟩
  le_of_lt _ _ h := ⟨h.1, h.2.1, h.2.2.le⟩
  lt_of_lt_of_le _ _ _ hxy hyz := ⟨hxy.1, hyz.2.1, hxy.2.2.trans_le hyz.2.2⟩
  lt_irrefl _ h := Int.lt_irrefl _ h.2.2
  le_of_not_lt _ _ := le_of_not_lt
  max_cases x y hx hy := by
    rw [max_eq hx hy]
    split_ifs with h
    · exact .inr ⟨rfl, hx, hy, h.2.2.le⟩
    · exact .inl ⟨rfl, le_of_not_lt hx hy h⟩

theorem le_mul_headroom {x : Double} (hx : x.isFinite) (hpos : 0 < x) : x ≤ x * headroom := by
  have hone : 1 ≤ headroom.size := by
    obtain ⟨-, hsize⟩ := size_natCast 1 (by omega)
    rw [← Nat.cast_one, ← hsize]
    exact size_mono _ _ (by decide +kernel)
  exact le_mul_of_one_le_size hx (by decide +kernel) hpos (by decide +kernel) hone

example : (5e-324 : Double) * headroom = 5e-324 := by decide +kernel

end Double

/-- The axis beside bars or lines starts at 0 and ends nowhere below a value or the reference line,
of which the panel takes the largest value. In exact arithmetic it ends above all of them as soon as
one is above 0. Numbers of 64 bits are rounded, but never so that something shown is cut off. -/
theorem valueAxis_reaches_above (kind : ChartKind) (hkind : kind ≠ .utilization) :
    (∀ (p : Panel ℚ) (reference : Option ℚ),
      IsGreatest (insert 0 p.pointValues) p.maxValue ∧
        (valueAxis (13 / 10) kind reference p).Covers (p.shown reference) ∧
        ∀ y ∈ p.shown reference, 0 < y →
          ∀ x ∈ p.shown reference, x < (valueAxis (13 / 10) kind reference p).high) ∧
      ∀ (p : Panel Double) (reference : Option Double), (∀ x ∈ p.shown reference, x.isFinite) →
        IsGreatest (insert 0 p.pointValues) p.maxValue ∧
          (valueAxis headroom kind reference p).Covers (p.shown reference) := by
  constructor
  · intro p reference
    have hline : ∀ x ∈ p.shown reference, True := fun _ _ => trivial
    refine ⟨inLine_rat.isGreatest_maxValue p reference hline, ?_, ?_⟩
    · apply valueAxis_covers _ kind hkind p reference inLine_rat hline
      intro x _ hx
      rw [Nat.cast_zero] at hx
      linarith
    · intro y hy hpos x hx
      exact valueAxis_above_rat kind hkind p reference hx hy hpos
  · intro p reference hfinite
    have hline : ∀ x ∈ p.shown reference, x.isNaN = false := fun x hx =>
      Double.isNaN_of_isFinite x (hfinite x hx)
    refine ⟨Double.inLine.isGreatest_maxValue p reference hline, ?_⟩
    apply valueAxis_covers _ kind hkind p reference Double.inLine hline
    intro x hx hpos
    exact Double.le_mul_headroom (hfinite x hx) hpos

def changes : Panel ℚ :=
  ⟨1 / 2, [0, 50],
    [⟨"A", .ofLabel "A" 0, [⟨0, -2, 1⟩, ⟨50, 4, 3⟩]⟩, ⟨"B", .ofLabel "B" 1, [⟨50, 10, 1⟩]⟩,
      ⟨"C", .ofLabel "C" 2, []⟩]⟩

def losses : Panel Double :=
  ⟨0.5, [0, 50], [⟨"A", .ofLabel "A" 0, [⟨0, -2, 1⟩, ⟨50, -0.5, 3⟩]⟩]⟩

theorem changes_below_axis :
    ChartKind.bar ≠ .utilization ∧ changes.maxValue = 10 ∧
      valueAxis (13 / 10) .bar (some 1) changes = ⟨0, 13⟩ ∧
      (∀ x ∈ changes.shown (some 1), x < 13) ∧
      (∀ x ∈ losses.shown (some (-1)), x.isFinite) ∧
      (valueAxis headroom .bar (some (-1)) losses).high = 1 := by
  have hkind : ChartKind.bar ≠ .utilization := by decide
  have haxis : valueAxis (13 / 10) .bar (some 1) changes = ⟨0, 13⟩ := by decide +kernel
  have hfinite : ∀ x ∈ losses.shown (some (-1)), x.isFinite :=
    (losses.forall_shown_iff _ _).mpr (by decide +kernel)
  have hlosses : ∀ x ∈ losses.shown (some (-1)), x ≤ ((0 : Nat) : Double) :=
    (losses.forall_shown_iff _ _).mpr (by decide +kernel)
  obtain ⟨hexact, hrounded⟩ := valueAxis_reaches_above .bar hkind
  obtain ⟨-, -, habove⟩ := hexact changes (some 1)
  obtain ⟨-, hcovers⟩ := hrounded losses (some (-1)) hfinite
  rw [haxis] at habove
  refine ⟨hkind, by decide +kernel, haxis, habove 1 (.inr rfl) one_pos, hfinite,
    hcovers.high_eq_one hlosses⟩

end BenchReport
