import BenchReport.Proofs.Double.Bounds
import BenchReport.Proofs.Series
import BenchReport.Proofs.Summary
import BenchReport.Proofs.Table.Cells
import BenchReport.Proofs.Table.Legible

namespace BenchReport

open Double

theorem Row.mem_values_of_value {r : Row} {i : Nat} {x : Double} (h : r.value i = some x) :
    some x ∈ r.values := by
  rw [Row.value, Option.join_eq_some_iff] at h
  exact List.mem_of_getElem? h

namespace Table

theorem load_isFinite (source : Path) (file : Bytes) (t : Table) (h : load source file = .ok t) :
    ∀ r ∈ t.rows, ∀ x, some x ∈ r.values → x.isFinite := by
  obtain ⟨header, lines, l, -, -, hrows, -, -⟩ := (load_eq_ok_iff source file t).mp h
  intro r hr x hx
  obtain ⟨line, -, cells, -, hrow⟩ := exists_line l lines t.rows hrows r hr
  obtain ⟨-, -, -, hvalues⟩ := (readRow_eq_ok_iff l line.number cells r).mp hrow
  rw [readMetrics_eq_ok_iff] at hvalues
  obtain ⟨i, hi, hcell⟩ := List.getElem_of_mem hx
  have hread := hvalues.get (hvalues.length_eq ▸ hi) hi
  rw [List.get_eq_getElem, List.get_eq_getElem, hcell] at hread
  exact readCell_isFinite _ _ _ x hread

def Within (t : Table) (q : Int) : Prop :=
  ∀ r ∈ t.rows, ∀ x, some x ∈ r.values → x.isFinite ∧ x.size ≤ 2 ^ q

/-- Cells up to `2 ^ a` and positive times from `2 ^ -b` on, in as many rows as leave room. -/
structure Moderate (t : Table) (a b : Nat) : Prop where
  cells : ∀ r ∈ t.rows, ∀ x, some x ∈ r.values → x.size ≤ 2 ^ a
  times : ∀ column ∈ Column.speedups, ∀ i, t.columnIndex? column.1 = some i →
    ∀ r ∈ t.rows, ∀ time, r.value i = some time → 0 < time → 1 / 2 ^ b ≤ time.size
  rows : t.rows.length ≤ 2 ^ 53
  room : t.rows.length * 2 ^ (a + b + 7) < 2 ^ 1024

end Table

namespace View

structure AllFinite (v : View) : Prop where
  cells : ∀ r ∈ v.table.rows, ∀ x, some x ∈ r.values → x.isFinite
  points : ∀ name k q, Sample.HasPoint (v.series name) k q → q.value.isFinite
  means : ∀ r ∈ (Summary.ofView v).rows, ∀ x, some x ∈ r.means → x.isFinite

theorem mem_samples {v : View} {name : String} {s : Sample} (h : s ∈ v.samples name) :
    ∃ r ∈ v.table.rows, some s.value ∈ r.values := by
  unfold samples at h
  cases hi : v.table.columnIndex? name with
  | none => simp [hi] at h
  | some i =>
    simp only [hi, List.mem_filterMap, Option.map_eq_some_iff] at h
    obtain ⟨r, hr, value, hvalue, rfl⟩ := h
    exact ⟨r, hr, Row.mem_values_of_value hvalue⟩

theorem length_samples_le (v : View) (name : String) :
    (v.samples name).length ≤ v.table.rows.length := by
  unfold samples
  cases v.table.columnIndex? name with
  | none => exact Nat.zero_le _
  | some i => exact List.length_filterMap_le _ _

section Within

variable (v : View) (q : Int) (hq : -1074 ≤ q) (hcells : v.table.Within q)
  (hrows : v.table.rows.length ≤ 2 ^ 53)
  (hroom : (v.table.rows.length * 2 ^ q : ℚ) < 2 ^ (1024 : Int))

include hq hcells hrows hroom

theorem mean_isFinite_of_within (values : List Double) (hne : values ≠ [])
    (hlength : values.length ≤ v.table.rows.length)
    (hvalues : ∀ x ∈ values, ∃ r ∈ v.table.rows, some x ∈ r.values) : (mean values).isFinite := by
  have hbounds : ∀ x ∈ values, x.isFinite ∧ x.size ≤ 2 ^ q := by
    intro x hx
    obtain ⟨r, hr, hmem⟩ := hvalues x hx
    exact hcells r hr x hmem
  have hle : (values.length * 2 ^ q : ℚ) ≤ v.table.rows.length * 2 ^ q :=
    mul_le_mul_of_nonneg_right (by exact_mod_cast hlength) (zpow_pos two_pos q).le
  exact (mean_le values q hq hbounds hne (hlength.trans hrows) (hle.trans_lt hroom)).1

theorem allFinite_of_within : v.AllFinite := by
  constructor
  · intro r hr x hx
    exact (hcells r hr x hx).1
  · intro name k p hp
    obtain ⟨hne, hvalue, -⟩ := (Sample.hasPoint_iff (v.samples name) k p).mp hp
    rw [hvalue]
    apply mean_isFinite_of_within v q hq hcells hrows hroom
    · simpa using hne
    · rw [List.length_map]
      exact (List.length_filter_le _ _).trans (length_samples_le v name)
    · intro x hx
      obtain ⟨s, hs, rfl⟩ := List.mem_map.mp hx
      exact mem_samples (List.mem_filter.mp hs).1
  · intro r hr x hx
    obtain ⟨-, hrow⟩ := (Summary.mem_rows_iff v r).mp hr
    rw [hrow, Summary.rowOf] at hx
    obtain ⟨i, -, hmean⟩ := List.mem_map.mp hx
    unfold Summary.meanOver at hmean
    split_ifs at hmean with hempty
    obtain rfl := Option.some.inj hmean
    apply mean_isFinite_of_within v q hq hcells hrows hroom _ hempty
    · exact (List.length_filterMap_le _ _).trans (List.length_filter_le _ _)
    · intro y hy
      obtain ⟨r', hr', hvalue⟩ := List.mem_filterMap.mp hy
      exact ⟨r', (List.mem_filter.mp hr').1, Row.mem_values_of_value hvalue⟩

end Within

theorem hitRate?_cell {t : Table} {trials : Option UInt64} {cell : Row → Option Double} {r : Row}
    {x : Double} (h : hitRate? t trials = some cell) (hx : cell r = some x) :
    ∃ hits n, some hits ∈ r.values ∧ trials = some n ∧ x = hits * 100 / (n.toNat : Double) := by
  unfold hitRate? at h
  split at h
  · obtain rfl := Option.some.inj h
    obtain ⟨hits, hhits, rfl⟩ := Option.map_eq_some_iff.mp hx
    exact ⟨hits, _, Row.mem_values_of_value hhits, rfl, rfl⟩
  · cases h

theorem speedup?_cell {t : Table} {column baseline : String} {cell : Row → Option Double} {r : Row}
    {x : Double} (h : speedup? t column baseline = some cell) (hx : cell r = some x) :
    ∃ i, t.columnIndex? column = some i ∧
      speedup (baselineTimes t i baseline r.sortedness r.readRatio) (r.value i) = some x := by
  unfold speedup? at h
  split at h
  · cases h
  · split_ifs at h
    obtain rfl := Option.some.inj h
    exact ⟨_, ‹_›, hx⟩

theorem mem_baselineTimes {t : Table} {i : Nat} {baseline : String} {sortedness ratio x : Double}
    (h : x ∈ baselineTimes t i baseline sortedness ratio) :
    ∃ r ∈ t.rows, some x ∈ r.values := by
  obtain ⟨r, hr, hvalue⟩ := List.mem_filterMap.mp h
  split_ifs at hvalue
  exact ⟨r, hr, Row.mem_values_of_value hvalue⟩

end View

namespace Table.Moderate

variable {t : Table} {a b : Nat}

theorem room_le (h : t.Moderate a b) (n : Nat) (q : Int) (hn : n ≤ t.rows.length)
    (hq : q ≤ (a + b + 7 : Nat)) : (n * 2 ^ q : ℚ) < 2 ^ (1024 : Int) :=
  calc (n * 2 ^ q : ℚ) ≤ n * 2 ^ ((a + b + 7 : Nat) : Int) :=
        mul_le_mul_of_nonneg_left (two_zpow_le hq) (Nat.cast_nonneg n)
    _ ≤ (t.rows.length * 2 ^ (a + b + 7) : Nat) := by
        rw [zpow_natCast]
        exact_mod_cast Nat.mul_le_mul_right _ hn
    _ < (2 ^ 1024 : Nat) := by exact_mod_cast h.room
    _ = 2 ^ (1024 : Int) := by rw [Nat.cast_pow, ← zpow_natCast]; rfl

theorem room_pow (h : t.Moderate a b) {r : Row} (hr : r ∈ t.rows) (q : Int)
    (hq : q ≤ (a + b + 7 : Nat)) : (2 ^ q : ℚ) < 2 ^ (1024 : Int) := by
  have hroom := h.room_le 1 q (List.length_pos_of_mem hr) hq
  rwa [Nat.cast_one, one_mul] at hroom

end Table.Moderate

theorem Double.IsFraction.size_le_one {x : Double} (h : x.IsFraction) : x.size ≤ 1 := by
  have hone := (size_natCast 1 (by omega)).2
  rw [Nat.cast_one] at hone
  rw [← hone]
  apply size_mono
  by_cases hzero : x.magnitude = 0
  · omega
  · have hpositive := x.not_negative_of_nonneg h.nonneg hzero
    obtain ⟨-, -, hlevel⟩ := h.le_one
    rw [level, hpositive, if_neg Bool.false_ne_true] at hlevel
    have hlevel_one : (1 : Double).level = (1 : Double).magnitude := by decide
    rw [hlevel_one] at hlevel
    exact_mod_cast hlevel

namespace View

theorem percent_le (s : Double) (hs : s.IsFraction) :
    (s * 100).isFinite ∧ (s * 100).size ≤ 2 ^ (7 : Int) := by
  obtain ⟨hhundred, hsize⟩ := size_natCast 100 (by omega)
  have hproduct : s.size * ((100 : Nat) : Double).size ≤ (100 : Nat) := by
    rw [hsize]
    exact mul_le_of_le_one_left (Nat.cast_nonneg _) hs.size_le_one
  obtain ⟨hfinite, hle⟩ := mul_le s ((100 : Nat) : Double) hs.finite hhundred _
    (exact_natCast 100 (by omega)) hproduct
  exact ⟨hfinite, hle.trans (by norm_num)⟩

section Moderate

variable {t : Table} {a b : Nat} (h : t.Moderate a b)
  (hfinite : ∀ r ∈ t.rows, ∀ x, some x ∈ r.values → x.isFinite) {r : Row} (hr : r ∈ t.rows)

include h hfinite hr

theorem hitRate_le (hits : Double) (hhits : some hits ∈ r.values) (n : UInt64) (hn : n ≠ 0) :
    (hits * 100 / (n.toNat : Double)).isFinite ∧
      (hits * 100 / (n.toNat : Double)).size ≤ 2 ^ (a + 7 : Int) := by
  have hpos : 0 < n.toNat := Nat.pos_of_ne_zero fun hzero => hn (UInt64.toNat_inj.mp hzero)
  have hexact := exact_two_zpow (a + 7) (by omega) (h.room_pow hr (a + 7) (by omega))
  have hcell := h.cells r hr hits hhits
  obtain ⟨hhundred, hsize⟩ := size_natCast 100 (by omega)
  have hproduct : hits.size * ((100 : Nat) : Double).size ≤ 2 ^ (a + 7 : Int) := by
    rw [hsize, two_zpow_pow_mul]
    exact mul_le_mul hcell (by norm_num) (Nat.cast_nonneg _) (pow_nonneg zero_le_two a)
  obtain ⟨hfine, hle⟩ := mul_le hits ((100 : Nat) : Double) (hfinite r hr hits hhits) hhundred _
    hexact hproduct
  obtain ⟨hquotient, hle'⟩ := div_natCast_le _ hfine n.toNat hpos n.toNat_lt
  exact ⟨hquotient, hle'.trans hle⟩

theorem speedup_le {column : String × String} (hcolumn : column ∈ Column.speedups) {i : Nat}
    (hi : t.columnIndex? column.1 = some i) (baseline : String) {x : Double}
    (hx : speedup (baselineTimes t i baseline r.sortedness r.readRatio) (r.value i) = some x) :
    x.isFinite ∧ x.size ≤ 2 ^ (a + b : Int) := by
  obtain ⟨hne, time, htime, hpos, rfl⟩ := (speedup_eq_some_iff _ _ x).mp hx
  have hsmall := h.times column hcolumn i hi r hr time htime hpos
  have htimes : ∀ y ∈ baselineTimes t i baseline r.sortedness r.readRatio,
      y.isFinite ∧ y.size ≤ 2 ^ (a : Int) := by
    intro y hy
    obtain ⟨q, hq, hmem⟩ := mem_baselineTimes hy
    rw [zpow_natCast]
    exact ⟨hfinite q hq y hmem, h.cells q hq y hmem⟩
  have hcount : (baselineTimes t i baseline r.sortedness r.readRatio).length ≤ t.rows.length :=
    List.length_filterMap_le _ _
  obtain ⟨hmean, hle⟩ := mean_le _ a (by omega) htimes hne (hcount.trans h.rows)
    (h.room_le _ a hcount (by omega))
  have hexact := exact_two_zpow (a + b) (by omega) (h.room_pow hr (a + b) (by omega))
  have hlow : (0 : ℚ) < 1 / 2 ^ b := one_div_pos.mpr (pow_pos two_pos b)
  apply div_le _ time hmean (hfinite r hr time (Row.mem_values_of_value htime))
    (hlow.trans_le hsmall) _ hexact
  calc (mean (baselineTimes t i baseline r.sortedness r.readRatio)).size ≤ 2 ^ (a : Int) := hle
    _ = 2 ^ (a + b : Int) * (1 / 2 ^ b) := by
        rw [zpow_add₀ two_ne_zero, zpow_natCast 2 b, mul_assoc,
          mul_one_div_cancel (pow_ne_zero b two_ne_zero), mul_one]
    _ ≤ 2 ^ (a + b : Int) * time.size := mul_le_mul_of_nonneg_left hsmall (zpow_pos two_pos _).le

end Moderate

theorem derive_within (t : Table) (o : DeriveOptions) (a b : Nat) (h : t.Moderate a b)
    (hkeys : ∀ r ∈ t.rows, r.sortedness.IsFraction)
    (hfinite : ∀ r ∈ t.rows, ∀ x, some x ∈ r.values → x.isFinite)
    (htrials : o.trialCount ≠ some 0) : (derive t o).table.Within (a + b + 7 : Nat) := by
  have hweaken {x : Double} {p : Int} (hp : p ≤ (a + b + 7 : Nat))
      (hx : x.isFinite ∧ x.size ≤ 2 ^ p) : x.isFinite ∧ x.size ≤ 2 ^ ((a + b + 7 : Nat) : Int) :=
    ⟨hx.1, hx.2.trans (two_zpow_le hp)⟩
  intro r' hr' x hx
  rw [derive_table] at hr'
  obtain ⟨r, hr, rfl⟩ := List.mem_map.mp hr'
  rcases List.mem_append.mp hx with hx | hx
  · refine hweaken (p := a) (by omega) ⟨hfinite r hr x hx, ?_⟩
    rw [zpow_natCast]
    exact h.cells r hr x hx
  · obtain ⟨d, hd, hcell⟩ := List.mem_map.mp hx
    rcases mem_derivers hd with rfl | ⟨cell, hrate, rfl⟩ | ⟨column, hcolumn, cell, hspeedup, rfl⟩
    · obtain rfl := Option.some.inj hcell
      exact hweaken (by omega) (percent_le r.sortedness (hkeys r hr))
    · obtain ⟨hits, n, hhits, hn, rfl⟩ := hitRate?_cell hrate hcell
      have hne : n ≠ 0 := by
        rintro rfl
        exact htrials hn
      exact hweaken (by omega) (hitRate_le h hfinite hr hits hhits n hne)
    · obtain ⟨i, hi, hquotient⟩ := speedup?_cell hspeedup hcell
      exact hweaken (by omega) (speedup_le h hfinite hr hcolumn hi o.baseline hquotient)

theorem point_isFinite_iff (v : View) (name : String) (k : SeriesKey) (p : Point Double)
    (hp : Sample.HasPoint (v.series name) k p) (htrials : p.trials < 2 ^ 64) :
    p.value.isFinite ↔
      (total ((Sample.group (v.samples name) k p.percent).map (·.value))).isFinite := by
  obtain ⟨hne, hvalue, hcount⟩ := (Sample.hasPoint_iff (v.samples name) k p).mp hp
  rw [hvalue]
  apply mean_isFinite_iff
  · simpa using hne
  · rwa [List.length_map, ← hcount]

theorem summary_mean_isFinite_iff (v : View) (r : SummaryRow) (hr : r ∈ (Summary.ofView v).rows)
    (htrials : r.trials < 2 ^ 64) (i : Nat) (x : Double) (hx : r.mean i = some x) :
    x.isFinite ↔ (total ((v.table.rows.filter (·.configuration = r.configuration)).filterMap
      (·.value i))).isFinite := by
  obtain ⟨-, hrow⟩ := (Summary.mem_rows_iff v r).mp hr
  have hi : i < v.table.columns.length := by
    by_contra hout
    rw [hrow] at hx
    simp [SummaryRow.mean, Summary.rowOf, Nat.le_of_not_lt hout] at hx
  rw [hrow, Summary.rowOf_mean _ _ _ i hi] at hx
  rw [hrow] at htrials
  unfold Summary.meanOver at hx
  split_ifs at hx with hempty
  obtain rfl := Option.some.inj hx
  exact mean_isFinite_iff _ hempty ((List.length_filterMap_le _ _).trans_lt htrials)

/-- The cells of a file and the percents of its view are finite, and a mean is when the sum in it
is. When the cells are moderate then all numbers of the view, its series and its summary are. -/
theorem derive_allFinite (source : Path) (file : Bytes) (t : Table) (o : DeriveOptions)
    (hload : Table.load source file = .ok t) (htrials : o.trialCount ≠ some 0) :
    (∀ r ∈ t.rows, ∀ x, some x ∈ r.values → x.isFinite) ∧
      (∀ r ∈ (derive t o).table.rows, ((derive t o).percent r).isFinite) ∧
      (∀ name k p, Sample.HasPoint ((derive t o).series name) k p → p.trials < 2 ^ 64 →
        (p.value.isFinite ↔ (total ((Sample.group ((derive t o).samples name) k p.percent).map
          (·.value))).isFinite)) ∧
      (∀ r ∈ (Summary.ofView (derive t o)).rows, r.trials < 2 ^ 64 → ∀ i x, r.mean i = some x →
        (x.isFinite ↔ (total (((derive t o).table.rows.filter
          (·.configuration = r.configuration)).filterMap (·.value i))).isFinite)) ∧
      ∀ a b, t.Moderate a b → (derive t o).AllFinite := by
  have hfinite := Table.load_isFinite source file t hload
  have hkeys (r : Row) (hr : r ∈ t.rows) : r.sortedness.IsFraction :=
    ((Table.load_legible source file t hload).keys r hr).1
  have hrectangular := Table.load_rectangular source file t hload
  have hrows : (derive t o).table.rows = t.rows.map (extend (derivers t o)) := by rw [derive_table]
  refine ⟨hfinite, ?_, ?_, ?_, ?_⟩
  · intro r' hr'
    rw [percent_derive t o hrectangular r' hr']
    rw [hrows] at hr'
    obtain ⟨r, hr, rfl⟩ := List.mem_map.mp hr'
    exact (percent_le r.sortedness (hkeys r hr)).1
  · intro name k p hp hcount
    exact point_isFinite_iff (derive t o) name k p hp hcount
  · intro r hr hcount i x hx
    exact summary_mean_isFinite_iff (derive t o) r hr hcount i x hx
  · intro a b hmoderate
    have hlength : (derive t o).table.rows.length = t.rows.length := by rw [hrows, List.length_map]
    apply allFinite_of_within (derive t o) (a + b + 7 : Nat) (by omega)
    · exact derive_within t o a b hmoderate hkeys hfinite htrials
    · exact hlength.trans_le hmoderate.rows
    · exact hmoderate.room_le _ _ hlength.le le_rfl

def twoTreesFile : Bytes :=
  Text.toBytes ("TreeType,Sortedness,ReadRatio,InsertTime,FastPathHits\n" ++
    "SimpleBTree,0.5,0.5,8,10\nLasTree,0.5,0.5,2,30\n")

def twoTrees : Table :=
  ⟨"trees.csv", [Column.insertTime, Column.fastPathHits],
    [⟨"SimpleBTree", 0.5, 0.5, [some 8, some 10]⟩, ⟨"LasTree", 0.5, 0.5, [some 2, some 30]⟩]⟩

theorem twoTrees_moderate : twoTrees.Moderate 5 0 := by
  have hsizes : ∀ x ∈ [8, 10, 2, 30], 1 ≤ size x ∧ size x ≤ 2 ^ 5 := by decide +kernel
  have hcell (r : Row) (hr : r ∈ twoTrees.rows) (x : Double) (hx : some x ∈ r.values) :
      1 ≤ x.size ∧ x.size ≤ 2 ^ 5 := by
    apply hsizes
    simp only [twoTrees, List.mem_cons, List.not_mem_nil, or_false] at hr
    rcases hr with rfl | rfl
    · have hx : x ∈ [8, 10] := by simpa using hx
      exact List.mem_append_left [2, 30] hx
    · have hx : x ∈ [2, 30] := by simpa using hx
      exact List.mem_append_right [8, 10] hx
  constructor
  · exact fun r hr x hx => (hcell r hr x hx).2
  · intro column hcolumn i hi r hr time htime hpos
    rw [pow_zero, one_div_one]
    exact (hcell r hr time (Row.mem_values_of_value htime)).1
  · decide
  · decide +kernel

theorem twoTrees_allFinite :
    Table.load "trees.csv" twoTreesFile = .ok twoTrees ∧ twoTrees.Moderate 5 0 ∧
      (derive twoTrees ⟨some 100, "SimpleBTree"⟩).table.columns = [Column.insertTime,
        Column.fastPathHits, Column.sortednessPercent, Column.fastPathHitRate, Column.insertSpeedup] ∧
      (derive twoTrees ⟨some 100, "SimpleBTree"⟩).AllFinite := by
  have hload : Table.load "trees.csv" twoTreesFile = .ok twoTrees := by decide +kernel
  obtain ⟨-, -, -, -, hmoderate⟩ := derive_allFinite "trees.csv" twoTreesFile twoTrees
    ⟨some 100, "SimpleBTree"⟩ hload (by decide)
  exact ⟨hload, twoTrees_moderate, by decide +kernel, hmoderate 5 0 twoTrees_moderate⟩

def largeTimesFile : Bytes :=
  Text.toBytes "TreeType,Sortedness,ReadRatio,InsertTime\nA,0.5,0.5,1e308\nA,0.5,0.5,1e308\n"

def largeTimes : Table :=
  ⟨"large.csv", [Column.insertTime],
    [⟨"A", 0.5, 0.5, [some 1e308]⟩, ⟨"A", 0.5, 0.5, [some 1e308]⟩]⟩

theorem largeTimes_overflow :
    ¬ ∀ (source : Path) (file : Bytes) (t : Table) (o : DeriveOptions),
      Table.load source file = .ok t → o.trialCount ≠ some 0 → (derive t o).AllFinite := by
  intro h
  have hload : Table.load "large.csv" largeTimesFile = .ok largeTimes := by decide +kernel
  have hseries : (derive largeTimes {}).series Column.insertTime =
      [(⟨0.5, "A"⟩, [⟨50, .ofMagnitude false infinity, 2⟩])] := by decide +kernel
  have hpoint : Sample.HasPoint ((derive largeTimes {}).series Column.insertTime) ⟨0.5, "A"⟩
      ⟨50, .ofMagnitude false infinity, 2⟩ :=
    ⟨_, hseries ▸ List.mem_cons_self, List.mem_cons_self⟩
  have hfinite := (h "large.csv" largeTimesFile largeTimes {} hload (by decide)).points _ _ _ hpoint
  exact absurd hfinite (by decide)

end View

end BenchReport
