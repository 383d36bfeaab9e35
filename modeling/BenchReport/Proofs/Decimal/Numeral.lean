import BenchReport.Decimal.Numeral
import BenchReport.Proofs.Decimal.Shortest
import BenchReport.Proofs.Double.Nearest
import Mathlib.Data.List.TakeWhile

namespace BenchReport

namespace Numeral

theorem decimal?_whole (cs : List Char) (hne : cs ≠ []) (h : ∀ c ∈ cs, c.isDigit) :
    decimal? cs = some ⟨digitsValue cs, 0⟩ := by
  have htake := List.takeWhile_eq_self_iff.mpr h
  have hdrop := List.dropWhile_eq_nil_iff.mpr h
  simp [decimal?, htake, hdrop, hne, exponent?]

theorem decimal?_point (cs ds : List Char) (hne : cs ≠ []) (hcs : ∀ c ∈ cs, c.isDigit)
    (hds : ∀ d ∈ ds, d.isDigit) :
    decimal? (cs ++ '.' :: ds) = some ⟨digitsValue (cs ++ ds), -ds.length⟩ := by
  have hpoint : Char.isDigit '.' = false := rfl
  have htake : (cs ++ '.' :: ds).takeWhile Char.isDigit = cs := by
    rw [List.takeWhile_append_of_pos hcs, List.takeWhile_cons, hpoint]
    exact List.append_nil cs
  have hdrop : (cs ++ '.' :: ds).dropWhile Char.isDigit = '.' :: ds := by
    rw [List.dropWhile_append_of_pos hcs, List.dropWhile_cons, hpoint]
    rfl
  have htake' := List.takeWhile_eq_self_iff.mpr hds
  have hdrop' := List.dropWhile_eq_nil_iff.mpr hds
  simp [decimal?, htake, hdrop, htake', hdrop', hne, exponent?]

theorem magnitude?_of_digit (c : Char) (cs : List Char) (h : c.isDigit) :
    magnitude? (c :: cs) = (decimal? (c :: cs)).map Decimal.nearest := by
  have hlower : c.toLower = c := by
    have hnine : c.toNat ≤ 57 := (Char.isDigit_iff_toNat.mp h).2
    have hupper : ¬ (c.val ≥ 'A'.val ∧ c.val ≤ 'Z'.val) := by
      rintro ⟨hA, -⟩
      have hletter : 65 ≤ c.toNat := UInt32.le_iff_toNat_le.mp hA
      omega
    exact dif_neg hupper
  -- no word for infinity or NaN starts with a digit
  have hword (w : Char) (ws : List Char) (hw : w.isDigit = false) :
      String.ofList ((c :: cs).map Char.toLower) ≠ String.ofList (w :: ws) := by
    intro heq
    have hlist := String.ofList_injective heq
    simp only [List.map_cons, hlower, List.cons.injEq] at hlist
    rw [hlist.1, hw] at h
    exact Bool.false_ne_true h
  have hinf : String.ofList ((c :: cs).map Char.toLower) ≠ "inf" := hword 'i' _ rfl
  have hinfinity : String.ofList ((c :: cs).map Char.toLower) ≠ "infinity" := hword 'i' _ rfl
  have hnan : String.ofList ((c :: cs).map Char.toLower) ≠ "nan" := hword 'n' _ rfl
  simp only [magnitude?, hinf, hinfinity, hnan, or_self, if_false]

end Numeral

namespace Decimal

open Numeral

theorem figures_digits (d : Decimal) : ∀ c ∈ d.figures, c.isDigit := by
  intro c hc
  exact Nat.isDigit_of_mem_toDigits (by decide) (by decide) hc

theorem digitsValue_figures (d : Decimal) : digitsValue d.figures = d.digits :=
  Nat.ofDigitChars_ten_toDigits

theorem zeros_digits (n : Int) : ∀ c ∈ zeros n, c.isDigit := by
  intro c hc
  rw [List.eq_of_mem_replicate hc]
  rfl

theorem digitsValue_append_zeros (ds : List Char) (n : Int) :
    digitsValue (ds ++ zeros n) = digitsValue ds * 10 ^ n.toNat := by
  rw [digitsValue, Nat.ofDigitChars_append, zeros, Nat.ofDigitChars_replicate_zero, Nat.mul_comm,
    ← digitsValue]

theorem digitsValue_zeros_append (n : Int) (ds : List Char) :
    digitsValue ('0' :: (zeros n ++ ds)) = digitsValue ds := by
  rw [← List.cons_append, digitsValue, Nat.ofDigitChars_append, zeros, ← List.replicate_succ,
    Nat.ofDigitChars_replicate_zero, Nat.mul_zero, ← digitsValue]

theorem positional_shape (d : Decimal) :
    ∃ cs ds, cs ≠ [] ∧ (∀ c ∈ cs, c.isDigit) ∧ (∀ c ∈ ds, c.isDigit) ∧
      (positional [] d = cs ∨ positional [] d = cs ++ '.' :: ds) := by
  have hfigures := figures_digits d
  unfold positional
  split_ifs with hwhole hpoint
  · refine ⟨d.figures ++ zeros d.exponent, [], ?_, ?_, ?_, .inl (List.append_nil _)⟩
    · simp [figures]
    · exact List.forall_mem_append.mpr ⟨hfigures, zeros_digits d.exponent⟩
    · simp
  · refine ⟨d.figures.take d.point.toNat, d.figures.drop d.point.toNat, ?_, ?_, ?_, .inr rfl⟩
    · simp [figures]
      omega
    · exact fun c hc => hfigures c (List.mem_of_mem_take hc)
    · exact fun c hc => hfigures c (List.mem_of_mem_drop hc)
  · refine ⟨['0'], zeros (-d.point) ++ d.figures, by simp, by simp, ?_, .inr rfl⟩
    exact List.forall_mem_append.mpr ⟨zeros_digits _, hfigures⟩

theorem decimal?_positional (d : Decimal) :
    (decimal? (positional [] d)).map nearest = some d.nearest := by
  have hfigures := figures_digits d
  have hlength : d.point = d.figures.length + d.exponent := rfl
  unfold positional
  split_ifs with hwhole hpoint
  · have hexponent : (0 : Int) + d.exponent.toNat = d.exponent := by omega
    rw [List.append_nil, decimal?_whole, digitsValue_append_zeros, digitsValue_figures,
      Option.map_some, nearest_mul_pow, hexponent]
    · simp [figures]
    · exact List.forall_mem_append.mpr ⟨hfigures, zeros_digits d.exponent⟩
  · have hexponent : -((d.figures.drop d.point.toNat).length : Int) = d.exponent := by
      rw [List.length_drop]
      omega
    rw [decimal?_point, List.take_append_drop, digitsValue_figures, hexponent, Option.map_some]
    · simp [figures]
      omega
    · exact fun c hc => hfigures c (List.mem_of_mem_take hc)
    · exact fun c hc => hfigures c (List.mem_of_mem_drop hc)
  · have hexponent : -((zeros (-d.point) ++ d.figures).length : Int) = d.exponent := by
      rw [List.length_append, zeros, List.length_replicate]
      omega
    have hread := decimal?_point ['0'] (zeros (-d.point) ++ d.figures) (by simp) (by simp)
      (List.forall_mem_append.mpr ⟨zeros_digits _, hfigures⟩)
    simp only [List.cons_append, List.nil_append, digitsValue_zeros_append, digitsValue_figures,
      hexponent] at hread
    rw [hread, Option.map_some]

theorem nearest_natural (n : Nat) : nearest ⟨n, 0⟩ = Double.nearestMagnitude n 1 := by
  rcases Nat.eq_zero_or_pos n with rfl | hn
  · simp [nearest, Double.nearestMagnitude]
  · have hlow : ¬ point ⟨n, 0⟩ < -330 := by
      unfold point
      dsimp only
      omega
    have hvalue : nearest ⟨n, 0⟩ =
        if 310 < point ⟨n, 0⟩ then Double.infinity else Double.nearestMagnitude n 1 := by
      simp [nearest, hlow, hn.ne', numerator, denominator]
    rw [hvalue]
    split_ifs with hlarge
    · -- a number of more than 310 figures rounds to infinity either way
      have hfigures : ¬ (Nat.toDigits 10 n).length ≤ 310 := by
        simp only [point, figures] at hlarge
        omega
      rw [Nat.length_toDigits_le_iff (by decide) (by decide), not_lt] at hfigures
      have hn : 2 ^ 1024 ≤ n := by
        refine le_trans ?_ hfigures
        decide +kernel
      exact (Double.nearestMagnitude_eq_infinity n 1024 le_rfl hn).symm
    · rfl

end Decimal

namespace Numeral

def Mark (c : Char) : Prop := c.isDigit ∨ c ∈ ['-', '.', 'N', 'a', 'i', 'n', 'f']

theorem read?_toDigits (n : Nat) : read? (Nat.toDigits 10 n) = some (n : Double) := by
  have hdigits : ∀ c ∈ Nat.toDigits 10 n, c.isDigit :=
    fun c hc => Nat.isDigit_of_mem_toDigits (by decide) (by decide) hc
  have hdecimal := decimal?_whole (Nat.toDigits 10 n) Nat.toDigits_ne_nil hdigits
  have hvalue : digitsValue (Nat.toDigits 10 n) = n := Nat.ofDigitChars_ten_toDigits
  cases hcs : Nat.toDigits 10 n with
  | nil => exact absurd hcs Nat.toDigits_ne_nil
  | cons c cs =>
    rw [hcs] at hdigits hdecimal hvalue
    have hc := hdigits c List.mem_cons_self
    have hunsign : unsign (c :: cs) = (false, c :: cs) := by
      unfold unsign
      split <;> simp_all
    simp only [read?, hunsign, magnitude?_of_digit c cs hc, hdecimal, hvalue, Option.map_some,
      Decimal.nearest_natural]
    rfl

end Numeral

namespace Double

open Numeral

theorem read?_signed (x : Double) (c : Char) (cs : List Char) (h : c ≠ '-' ∧ c ≠ '+') :
    read? (x.signed (c :: cs)) = (magnitude? (c :: cs)).map (ofMagnitude x.negative) := by
  have hunsign : unsign (x.signed (c :: cs)) = (x.negative, c :: cs) := by
    unfold signed
    cases x.negative
    · unfold unsign
      split <;> simp_all
    · rfl
  simp only [read?, hunsign]

theorem write_of_isFinite (style : NumeralStyle) (x : Double) (h : x.isFinite) :
    x.write style = x.signed ((Decimal.shortest style.tie x).write style) := by
  have hnan : x.isNaN = false := by
    simp only [isFinite, isNaN, decide_eq_true_eq, decide_eq_false_iff_not] at h ⊢
    exact h.not_gt
  simp only [write, hnan, h, Bool.false_eq_true, if_false, if_true]

theorem write_plain_of_isFinite (x : Double) (h : x.isFinite) :
    x.write .plain = x.signed (Decimal.positional [] (Decimal.shortest .up x)) :=
  write_of_isFinite .plain x h

theorem read?_write_of_isFinite (x : Double) (h : x.isFinite) : read? (x.write .plain) = some x := by
  obtain ⟨cs, ds, hne, hcs, -, hshape⟩ := Decimal.positional_shape (Decimal.shortest .up x)
  obtain ⟨c, size, hsize⟩ : ∃ c size, Decimal.positional [] (Decimal.shortest .up x) = c :: size ∧
      c.isDigit := by
    obtain ⟨c, cs, rfl⟩ := List.exists_cons_of_ne_nil hne
    rcases hshape with hshape | hshape
    · exact ⟨c, cs, hshape, hcs c List.mem_cons_self⟩
    · exact ⟨c, cs ++ '.' :: ds, hshape, hcs c List.mem_cons_self⟩
  obtain ⟨hpositional, hc⟩ := hsize
  have hmagnitude : magnitude? (c :: size) = some x.magnitude := by
    rw [magnitude?_of_digit c size hc, ← hpositional, Decimal.decimal?_positional,
      Decimal.shortest_nearest .up x h]
  have hsign : c ≠ '-' ∧ c ≠ '+' := by
    constructor <;> (rintro rfl; exact absurd hc (by decide))
  rw [write_plain_of_isFinite x h, hpositional, read?_signed x c size hsign, hmagnitude, Option.map_some,
    ofMagnitude_self]

theorem ofMagnitude_not_isFinite (negative : Bool) (m : Nat) (hlow : infinity ≤ m) (hhigh : m < 2 ^ 63) :
    (ofMagnitude negative m).isFinite = false := by
  rw [isFinite, magnitude_ofMagnitude negative m hhigh]
  exact decide_eq_false hlow.not_gt

theorem read?_write_of_not_isFinite (x : Double) (h : x.isFinite = false) :
    ∃ y, read? (x.write .plain) = some y ∧ y.isFinite = false := by
  cases hnan : x.isNaN with
  | true =>
    refine ⟨ofMagnitude false (infinity + 2 ^ 51), ?_, ofMagnitude_not_isFinite _ _ ?_ ?_⟩
    · simp only [write, hnan, if_true]
      decide
    · decide
    · decide
  | false =>
    refine ⟨ofMagnitude x.negative infinity, ?_, ofMagnitude_not_isFinite _ _ le_rfl (by decide)⟩
    simp only [write, hnan, h, Bool.false_eq_true, if_false]
    exact read?_signed x 'i' ['n', 'f'] (by decide)

theorem read?_write (x : Double) :
    ∃ y, read? (x.write .plain) = some y ∧ y.isFinite = x.isFinite ∧ (x.isFinite → y = x) := by
  cases h : x.isFinite with
  | true => exact ⟨x, read?_write_of_isFinite x h, h, fun _ => rfl⟩
  | false =>
    obtain ⟨y, hread, hy⟩ := read?_write_of_not_isFinite x h
    exact ⟨y, hread, hy, fun hx => absurd hx Bool.false_ne_true⟩

theorem write_marks (x : Double) : x.write .plain ≠ [] ∧ ∀ c ∈ x.write .plain, Mark c := by
  have hsigned (size : List Char) (hne : size ≠ []) (h : ∀ c ∈ size, Mark c) :
      x.signed size ≠ [] ∧ ∀ c ∈ x.signed size, Mark c := by
    unfold signed
    split_ifs
    · simp only [ne_eq, reduceCtorEq, not_false_eq_true, List.forall_mem_cons, true_and]
      exact ⟨.inr (by decide), h⟩
    · exact ⟨hne, h⟩
  cases hfinite : x.isFinite with
  | true =>
    obtain ⟨cs, ds, hne, hcs, hds, hshape⟩ := Decimal.positional_shape (Decimal.shortest .up x)
    rw [write_plain_of_isFinite x hfinite]
    apply hsigned
    · rcases hshape with hshape | hshape <;> simp [hshape, hne]
    · intro c hc
      rcases hshape with hshape | hshape
      · rw [hshape] at hc
        exact .inl (hcs c hc)
      · rw [hshape, List.mem_append, List.mem_cons] at hc
        rcases hc with hc | rfl | hc
        · exact .inl (hcs c hc)
        · exact .inr (by decide)
        · exact .inl (hds c hc)
  | false =>
    cases hnan : x.isNaN with
    | true =>
      have hword : ∀ c ∈ ['N', 'a', 'N'], Mark c := by simp [Mark]
      simp only [write, hnan, if_true]
      exact ⟨by decide, hword⟩
    | false =>
      have hword : ∀ c ∈ ['i', 'n', 'f'], Mark c := by simp [Mark]
      simp only [write, hnan, hfinite, Bool.false_eq_true, if_false]
      exact hsigned _ (by decide) hword

end Double

end BenchReport
