import BenchReport.Proofs.Json.Reader
import BenchReport.Proofs.Decimal.Numeral
import BenchReport.Proofs.Double.Bounds

namespace BenchReport

theorem toDigits_head? (n : Nat) (hn : 0 < n) : (Nat.toDigits 10 n).head? ≠ some '0' := by
  induction n using Nat.strongRecOn with
  | ind n ih =>
    by_cases hsmall : n < 10
    · have hdigit : ∀ d < 10, 0 < d → [Nat.digitChar d].head? ≠ some '0' := by decide
      rw [Nat.toDigits_of_lt_base hsmall]
      exact hdigit n hsmall hn
    · have happend := Nat.toDigits_append_toDigits (b := 10) (by decide) (by omega : 0 < n / 10)
        (Nat.mod_lt n (by decide))
      rw [Nat.div_add_mod] at happend
      rw [← happend, List.head?_append_of_ne_nil _ Nat.toDigits_ne_nil]
      exact ih (n / 10) (by omega) (by omega)

theorem toDigits_cons (n : Nat) : ∃ c cs, Nat.toDigits 10 n = c :: cs ∧ c.isDigit := by
  obtain ⟨c, cs, hcs⟩ := List.exists_cons_of_ne_nil (Nat.toDigits_ne_nil (b := 10) (n := n))
  have hc : c ∈ Nat.toDigits 10 n := hcs ▸ List.mem_cons_self
  exact ⟨c, cs, hcs, Nat.isDigit_of_mem_toDigits (by decide) (by decide) hc⟩

namespace Json

open Numeral

structure Spelling where
  whole : List Char
  fraction : List Char
  power : Option (Bool × List Char)

namespace Spelling

def text (s : Spelling) : List Char :=
  s.whole ++ ((if s.fraction = [] then [] else '.' :: s.fraction) ++
    s.power.elim [] fun p => 'e' :: (if p.1 then '-' else '+') :: p.2)

def exponent (s : Spelling) : Int :=
  s.power.elim 0 fun p => if p.1 then -digitsValue p.2 else digitsValue p.2

def value (s : Spelling) : Decimal :=
  ⟨digitsValue (s.whole ++ s.fraction), s.exponent - s.fraction.length⟩

structure WellFormed (s : Spelling) : Prop where
  whole_ne_nil : s.whole ≠ []
  whole : ∀ c ∈ s.whole, c.isDigit
  fraction : ∀ c ∈ s.fraction, c.isDigit
  power : ∀ p ∈ s.power, p.2 ≠ [] ∧ ∀ c ∈ p.2, c.isDigit
  leading : s.whole.head? = some '0' → s.whole.length = 1

end Spelling

def EndsNumber (cs : List Char) : Prop :=
  ∀ c ∈ cs.head?, c.isDigit = false ∧ c ≠ '.' ∧ c ≠ 'e' ∧ c ≠ 'E'

theorem readDigits_append (atEnd : Fault) (ds rest : List Char) (hne : ds ≠ [])
    (hds : ∀ c ∈ ds, c.isDigit) (hrest : ∀ c ∈ rest.head?, c.isDigit = false) :
    readDigits atEnd (ds ++ rest) = .ok (ds, rest) := by
  have htake : rest.takeWhile Char.isDigit = [] ∧ rest.dropWhile Char.isDigit = rest := by
    cases rest with
    | nil => exact ⟨rfl, rfl⟩
    | cons c rest => simp [hrest c rfl]
  obtain ⟨d, ds, rfl⟩ := List.exists_cons_of_ne_nil hne
  have hd : d.isDigit := hds d List.mem_cons_self
  have hread : readDigits atEnd (d :: ds ++ rest) =
      .ok ((d :: ds ++ rest).takeWhile Char.isDigit, (d :: ds ++ rest).dropWhile Char.isDigit) := by
    simp [readDigits, hd]
  rw [hread, List.takeWhile_append_of_pos hds, List.dropWhile_append_of_pos hds, htake.1, htake.2,
    List.append_nil]

theorem readWhole_append (atEnd : Fault) (ds rest : List Char) (hne : ds ≠ [])
    (hds : ∀ c ∈ ds, c.isDigit) (hzero : ds.head? = some '0' → ds.length = 1)
    (hrest : ∀ c ∈ rest.head?, c.isDigit = false) :
    readWhole atEnd (ds ++ rest) = .ok (ds, rest) := by
  have hallowed : ¬ (ds.head? = some '0' ∧ ds.length ≠ 1) := fun ⟨hhead, hlength⟩ =>
    hlength (hzero hhead)
  simp only [readWhole, readDigits_append atEnd ds rest hne hds hrest, Bind.bind, Except.bind,
    hallowed, if_false]

theorem readFraction_append (atEnd : Fault) (ds rest : List Char) (hds : ∀ c ∈ ds, c.isDigit)
    (hrest : ∀ c ∈ rest.head?, c.isDigit = false ∧ c ≠ '.') :
    readFraction atEnd ((if ds = [] then [] else '.' :: ds) ++ rest) = .ok (ds, rest) := by
  split_ifs with hempty
  · rw [hempty, List.nil_append]
    unfold readFraction
    split
    · exact absurd rfl (hrest _ rfl).2
    · rfl
  · exact readDigits_append atEnd ds rest hempty hds fun c hc => (hrest c hc).1

theorem readPower_append (atEnd : Fault) (power : Option (Bool × List Char)) (rest : List Char)
    (hpower : ∀ p ∈ power, p.2 ≠ [] ∧ ∀ c ∈ p.2, c.isDigit) (hrest : EndsNumber rest) :
    readPower atEnd (power.elim [] (fun p => 'e' :: (if p.1 then '-' else '+') :: p.2) ++ rest) =
      .ok (power.map fun p => if p.1 then -digitsValue p.2 else digitsValue p.2, rest) := by
  cases power with
  | none =>
    cases rest with
    | nil => rfl
    | cons c rest =>
      obtain ⟨-, -, he, hE⟩ := hrest c rfl
      simp [readPower, he, hE]
  | some p =>
    obtain ⟨negative, ds⟩ := p
    obtain ⟨hne, hds⟩ := hpower _ rfl
    have hdigits := readDigits_append atEnd ds rest hne hds fun c hc => (hrest c hc).1
    cases negative <;> simp [readPower, unsign, hdigits, Bind.bind, Except.bind]

theorem readNumeral_text (negative : Bool) (s : Spelling) (h : s.WellFormed) (rest : List Char)
    (hrest : EndsNumber rest) :
    readNumeral negative (s.text ++ rest) =
      if negative = false ∧ s.fraction = [] ∧ s.power = none then
        .ok (.natural (digitsValue s.whole), rest)
      else if s.value.nearest < Double.infinity then
        .ok (.number (.ofMagnitude negative s.value.nearest), rest)
      else .error .malformed := by
  have hpowerHead : ∀ c ∈ (s.power.elim [] (fun p => 'e' :: (if p.1 then '-' else '+') :: p.2) ++
      rest).head?, c.isDigit = false ∧ c ≠ '.' := by
    cases s.power with
    | none => exact fun c hc => ⟨(hrest c hc).1, (hrest c hc).2.1⟩
    | some p =>
      rintro c ⟨⟩
      decide
  have hfractionHead : ∀ c ∈ ((if s.fraction = [] then [] else '.' :: s.fraction) ++
      (s.power.elim [] (fun p => 'e' :: (if p.1 then '-' else '+') :: p.2) ++ rest)).head?,
      c.isDigit = false := by
    split_ifs
    · exact fun c hc => (hpowerHead c hc).1
    · rintro c ⟨⟩
      decide
  have hwhole := readWhole_append .truncated s.whole _ h.whole_ne_nil h.whole h.leading hfractionHead
  have hfraction := readFraction_append .truncated s.fraction _ h.fraction hpowerHead
  have hpower := readPower_append .truncated s.power rest h.power hrest
  have hexponent : (s.power.map fun p => if p.1 then -(digitsValue p.2 : Int) else digitsValue p.2).getD 0 =
      s.exponent := by
    rw [Spelling.exponent]
    cases s.power <;> rfl
  rw [Spelling.text, List.append_assoc, List.append_assoc]
  simp only [readNumeral, hwhole, hfraction, hpower, Bind.bind, Except.bind, hexponent,
    List.isEmpty_iff, Option.isNone_map, Option.isNone_iff_eq_none, Spelling.value]
  congr

end Json

namespace Decimal

open Numeral Json

theorem figures_ne_nil (d : Decimal) : d.figures ≠ [] := Nat.toDigits_ne_nil

theorem digits_eq_zero_of_head? (d : Decimal) (h : d.figures.head? = some '0') : d.digits = 0 := by
  by_contra hdigits
  exact toDigits_head? d.digits (Nat.pos_of_ne_zero hdigits) h

def spelling (d : Decimal) : Spelling :=
  if NumeralStyle.json.positional d.point then
    if 0 ≤ d.exponent then ⟨d.figures ++ zeros d.exponent, ['0'], none⟩
    else if 0 < d.point then ⟨d.figures.take d.point.toNat, d.figures.drop d.point.toNat, none⟩
    else ⟨['0'], zeros (-d.point) ++ d.figures, none⟩
  else
    ⟨d.figures.take 1, d.figures.drop 1,
      some (decide (d.point - 1 < 0), Nat.toDigits 10 (d.point - 1).natAbs)⟩

theorem spelling_text (d : Decimal) : d.spelling.text = d.write .json := by
  have hlength : d.point = d.figures.length + d.exponent := rfl
  unfold spelling
  split_ifs with hpositional hwhole hpoint
  · simp only [write, hpositional, positional, hwhole, if_true, Spelling.text]
    simp [NumeralStyle.json]
  · have hdrop : d.figures.drop d.point.toNat ≠ [] := by
      rw [Ne, List.drop_eq_nil_iff]
      omega
    simp only [write, hpositional, positional, hwhole, hpoint, if_true, if_false, Spelling.text, hdrop]
    simp
  · have hfraction : zeros (-d.point) ++ d.figures ≠ [] := by simp [figures_ne_nil]
    simp only [write, hpositional, positional, hwhole, hpoint, if_true, if_false, Spelling.text,
      hfraction]
    simp
  · have hdrop : d.figures.drop 1 = [] ↔ d.figures.length = 1 := by
      have hpos := List.length_pos_iff.mpr d.figures_ne_nil
      rw [List.drop_eq_nil_iff]
      omega
    simp only [write, hpositional, scientific, Spelling.text, hdrop]
    simp

theorem spelling_value (d : Decimal) : d.spelling.value.nearest = d.nearest := by
  have hlength : d.point = d.figures.length + d.exponent := rfl
  have hpos := List.length_pos_iff.mpr d.figures_ne_nil
  unfold spelling
  split_ifs with hpositional hwhole hpoint
  · have hone : zeros 1 = ['0'] := rfl
    have hexponent : (-1 : Int) + (d.exponent.toNat + 1 : Nat) = d.exponent := by omega
    have hdigits : digitsValue (d.figures ++ zeros d.exponent ++ ['0']) =
        d.digits * 10 ^ (d.exponent.toNat + 1) := by
      rw [← hone, digitsValue_append_zeros, digitsValue_append_zeros, digitsValue_figures,
        Nat.mul_assoc, ← Nat.pow_add]
      rfl
    have hmove := nearest_mul_pow d.digits (d.exponent.toNat + 1) (-1)
    rw [hexponent, ← hdigits] at hmove
    exact hmove
  · have hexponent : (0 : Int) - (d.figures.drop d.point.toNat).length = d.exponent := by
      rw [List.length_drop]
      omega
    simp only [Spelling.value, Spelling.exponent, Option.elim_none, List.take_append_drop,
      digitsValue_figures, hexponent]
  · have hexponent : (0 : Int) - (zeros (-d.point) ++ d.figures).length = d.exponent := by
      rw [List.length_append, zeros, List.length_replicate]
      omega
    simp only [Spelling.value, Spelling.exponent, Option.elim_none, List.singleton_append,
      digitsValue_zeros_append, digitsValue_figures, hexponent]
  · have hpower : (if d.point - 1 < 0 then -((d.point - 1).natAbs : Int) else (d.point - 1).natAbs) =
        d.point - 1 := by
      split_ifs <;> omega
    have hexponent : d.point - 1 - (d.figures.drop 1).length = d.exponent := by
      rw [List.length_drop]
      omega
    have hdigits : digitsValue (Nat.toDigits 10 (d.point - 1).natAbs) = (d.point - 1).natAbs :=
      Nat.ofDigitChars_ten_toDigits
    simp only [Spelling.value, Spelling.exponent, Option.elim_some, List.take_append_drop,
      digitsValue_figures, hdigits, decide_eq_true_eq, hpower, hexponent]

theorem spelling_whole (d : Decimal) :
    d.spelling.whole ≠ [] ∧ ∀ c ∈ d.spelling.whole, c.isDigit := by
  have hfigures := d.figures_digits
  have hne := d.figures_ne_nil
  unfold spelling
  split_ifs with hpositional hwhole hpoint
  · exact ⟨by simp [hne], List.forall_mem_append.mpr ⟨hfigures, zeros_digits d.exponent⟩⟩
  · refine ⟨?_, fun c hc => hfigures c (List.mem_of_mem_take hc)⟩
    rw [Ne, List.take_eq_nil_iff]
    simp only [hne, or_false]
    omega
  · exact ⟨by simp, by simp⟩
  · exact ⟨by simp [hne], fun c hc => hfigures c (List.mem_of_mem_take hc)⟩

theorem spelling_fraction (d : Decimal) : ∀ c ∈ d.spelling.fraction, c.isDigit := by
  have hfigures := d.figures_digits
  unfold spelling
  split_ifs with hpositional hwhole hpoint
  · simp
  · exact fun c hc => hfigures c (List.mem_of_mem_drop hc)
  · exact List.forall_mem_append.mpr ⟨zeros_digits _, hfigures⟩
  · exact fun c hc => hfigures c (List.mem_of_mem_drop hc)

theorem spelling_power (d : Decimal) :
    ∀ p ∈ d.spelling.power, p.2 ≠ [] ∧ ∀ c ∈ p.2, c.isDigit := by
  have hdigits : ∀ c ∈ Nat.toDigits 10 (d.point - 1).natAbs, c.isDigit := by
    intro c hc
    exact Nat.isDigit_of_mem_toDigits (by decide) (by decide) hc
  unfold spelling
  split_ifs with hpositional hwhole hpoint
  · simp
  · simp
  · simp
  · simpa using hdigits

theorem spelling_leading (d : Decimal) (h : d.digits = 0 → d.exponent = 0)
    (hzero : d.spelling.whole.head? = some '0') : d.spelling.whole.length = 1 := by
  have hlength : d.point = d.figures.length + d.exponent := rfl
  have hpos := List.length_pos_iff.mpr d.figures_ne_nil
  revert hzero
  unfold spelling
  split_ifs with hpositional hwhole hpoint
  · intro hzero
    rw [List.head?_append_of_ne_nil _ d.figures_ne_nil] at hzero
    have hdigits := d.digits_eq_zero_of_head? hzero
    simp [figures, hdigits, zeros, h hdigits]
  · intro hzero
    rw [List.head?_take, if_neg (by omega)] at hzero
    have hexponent := h (d.digits_eq_zero_of_head? hzero)
    omega
  · exact fun _ => rfl
  · intro _
    rw [List.length_take]
    omega

theorem spelling_wellFormed (d : Decimal) (h : d.digits = 0 → d.exponent = 0) :
    d.spelling.WellFormed :=
  ⟨d.spelling_whole.1, d.spelling_whole.2, d.spelling_fraction, d.spelling_power, d.spelling_leading h⟩

theorem write_json_head (d : Decimal) : ∃ c cs, d.write .json = c :: cs ∧ c.isDigit := by
  obtain ⟨hne, hdigits⟩ := d.spelling_whole
  obtain ⟨c, cs, hcs⟩ := List.exists_cons_of_ne_nil hne
  have hc : c.isDigit := hdigits c (hcs ▸ List.mem_cons_self)
  rw [← spelling_text, Spelling.text, hcs, List.cons_append]
  exact ⟨c, _, rfl, hc⟩

theorem spelling_not_natural (d : Decimal) : ¬ (d.spelling.fraction = [] ∧ d.spelling.power = none) := by
  have hlength : d.point = d.figures.length + d.exponent := rfl
  unfold spelling
  split_ifs with hpositional hwhole hpoint
  · simp
  · rintro ⟨hdrop, -⟩
    rw [List.drop_eq_nil_iff] at hdrop
    omega
  · simp [d.figures_ne_nil]
  · simp

end Decimal

namespace Json

open Numeral

theorem readNumeral_toDigits (n : Nat) (rest : List Char) (hrest : EndsNumber rest) :
    readNumeral false (Nat.toDigits 10 n ++ rest) = .ok (.natural n, rest) := by
  have htext : (Spelling.mk (Nat.toDigits 10 n) [] none).text = Nat.toDigits 10 n := by
    simp [Spelling.text]
  have hwellFormed : (Spelling.mk (Nat.toDigits 10 n) [] none).WellFormed := by
    refine ⟨Nat.toDigits_ne_nil, fun c hc => Nat.isDigit_of_mem_toDigits (by decide) (by decide) hc,
      by simp, by simp, ?_⟩
    intro hzero
    obtain rfl : n = 0 := Decimal.digits_eq_zero_of_head? ⟨n, 0⟩ hzero
    rfl
  have hvalue : Numeral.digitsValue (Nat.toDigits 10 n) = n := Nat.ofDigitChars_ten_toDigits
  have hread := readNumeral_text false _ hwellFormed rest hrest
  rw [if_pos ⟨rfl, rfl, rfl⟩, htext] at hread
  simp only [hread, hvalue]

theorem readNumeral_write (negative : Bool) (d : Decimal) (h : d.digits = 0 → d.exponent = 0)
    (hfinite : d.nearest < Double.infinity) (rest : List Char) (hrest : EndsNumber rest) :
    readNumeral negative (d.write .json ++ rest) =
      .ok (.number (.ofMagnitude negative d.nearest), rest) := by
  have hread := readNumeral_text negative d.spelling (d.spelling_wellFormed h) rest hrest
  rw [if_neg fun ⟨_, hnatural⟩ => d.spelling_not_natural hnatural, d.spelling_text, d.spelling_value,
    if_pos hfinite] at hread
  exact hread

theorem readNumeral_shortest (x : Double) (hx : x.isFinite) (rest : List Char)
    (hrest : EndsNumber rest) :
    readNumeral x.negative ((Decimal.shortest .toEven x).write .json ++ rest) =
      .ok (.number x, rest) := by
  have hnearest := Decimal.shortest_nearest .toEven x hx
  have hfinite : x.magnitude < Double.infinity := x.isFinite_iff.mp hx
  have hzero : (Decimal.shortest .toEven x).digits = 0 → (Decimal.shortest .toEven x).exponent = 0 := by
    intro hdigits
    have hmagnitude : x.magnitude = 0 := by
      rw [← hnearest]
      simp [Decimal.nearest, hdigits]
    simp [Decimal.shortest, hmagnitude]
  rw [readNumeral_write x.negative _ hzero (by rwa [hnearest]) rest hrest, hnearest,
    Double.ofMagnitude_self]

theorem leadingDigits_of_lt (ds : List Char) (h : digitsValue ds < UInt64.size) :
    leadingDigits ds = (digitsValue ds, 0) := by
  -- from the last digit on: with one digit less the number is smaller
  induction ds using List.reverseRecOn with
  | nil => rfl
  | append_singleton ds d ih =>
    have hvalue : digitsValue (ds ++ [d]) = 10 * digitsValue ds + (d.toNat - '0'.toNat) := by
      simp [digitsValue, Nat.ofDigitChars_append, Nat.ofDigitChars_cons]
    have hread : leadingDigits ds = (digitsValue ds, 0) := ih (by omega)
    rw [hvalue] at h ⊢
    unfold leadingDigits at hread ⊢
    rw [List.foldl_append, hread]
    simp only [List.foldl_cons, List.foldl_nil, h, and_self, if_true]

theorem isTooLarge_of_lt (ds : List Char) (h : digitsValue ds < UInt64.size) :
    isTooLarge ds 0 = false := by
  obtain ⟨hone, hsize⟩ := Double.size_natCast 1 (by omega)
  have hfinite : (digitsValue ds : Double).isFinite := Double.ofNat_isFinite _ h
  have hle : (digitsValue ds : Double).size * ((1 : Nat) : Double).size ≤
      (digitsValue ds : Double).size := by
    rw [hsize, Nat.cast_one, mul_one]
  obtain ⟨hproduct, -⟩ :=
    Double.mul_le _ _ hfinite hone _ (Double.size_exact _ hfinite) hle
  have hmagnitude := ((Double.isFinite_iff _).mp hproduct).ne
  have hpow : Nat.pow 10 (0 + ((0 : Nat) : Int)).toNat = 1 := rfl
  simp only [isTooLarge, leadingDigits_of_lt ds h, hpow, hmagnitude]
  simp

theorem readNumber_toDigits (n : Nat) (hn : n < UInt64.size) (rest : List Char)
    (hrest : EndsNumber rest) :
    readNumber (Nat.toDigits 10 n ++ rest) = .ok (.whole n, rest) := by
  have hvalue : digitsValue (Nat.toDigits 10 n) = n := Nat.ofDigitChars_ten_toDigits
  have hdigits : ∀ c ∈ Nat.toDigits 10 n, c.isDigit := fun c hc =>
    Nat.isDigit_of_mem_toDigits (by decide) (by decide) hc
  have hleading : (Nat.toDigits 10 n).head? = some '0' → (Nat.toDigits 10 n).length = 1 := by
    intro hzero
    obtain rfl : n = 0 := Decimal.digits_eq_zero_of_head? ⟨n, 0⟩ hzero
    rfl
  have hwhole := readWhole_append .truncated _ rest Nat.toDigits_ne_nil hdigits hleading
    fun c hc => (hrest c hc).1
  have hfraction : readFraction .truncated rest = .ok ([], rest) :=
    readFraction_append .truncated [] rest (by simp) fun c hc => ⟨(hrest c hc).1, (hrest c hc).2.1⟩
  have hpower : readPower .truncated rest = .ok (none, rest) :=
    readPower_append .truncated none rest (by simp) hrest
  have hsmall := isTooLarge_of_lt (Nat.toDigits 10 n) (by rwa [hvalue])
  simp only [readNumber, hwhole, hfraction, hpower, Bind.bind, Except.bind, List.append_nil,
    Option.getD_none, List.length_nil, Nat.cast_zero, sub_zero, hsmall, hvalue]
  simp

end Json

end BenchReport
