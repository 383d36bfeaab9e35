import BenchReport.Json
import BenchReport.Json.Scanner
import Mathlib.Tactic.SplitIfs

namespace BenchReport.Json

theorem hexDigit?_hexFigure : ∀ n < 16, hexDigit? (hexFigure n) = some n := by decide

theorem unicodeEscape_hexFigure (c : Char) (cs : List Char) (h : c.toNat < 32) :
    unicodeEscape ('0' :: '0' :: hexFigure (c.toNat / 16) :: hexFigure (c.toNat % 16) :: cs) =
      .ok (c, cs) := by
  have hzero : hexDigit? '0' = some 0 := by decide
  have hhigh := hexDigit?_hexFigure (c.toNat / 16) (by omega)
  have hlow := hexDigit?_hexFigure (c.toNat % 16) (by omega)
  have hnumber : hexNumber ('0' :: '0' :: hexFigure (c.toNat / 16) :: hexFigure (c.toNat % 16) :: cs) =
      .ok (c.toNat, cs) := by
    simp only [hexNumber, hzero, hhigh, hlow, Except.ok.injEq, Prod.mk.injEq, and_true]
    omega
  have hplain : ¬ 0xdc00 ≤ c.toNat ∧ ¬ 0xd800 ≤ c.toNat := by omega
  simp only [unicodeEscape, hnumber, Bind.bind, Except.bind, hplain, false_and, if_false,
    Char.ofNat_toNat]

theorem readChars_escape (n : Nat) (c : Char) (cs : List Char) :
    readChars (n + 1) (escape c ++ cs) = (readChars n cs).map fun r => (c :: r.1, r.2) := by
  have hplain (h : c ≠ '"' ∧ c ≠ '\\' ∧ ¬ c.toNat < 32) :
      readChars (n + 1) (c :: cs) = (readChars n cs).map fun r => (c :: r.1, r.2) := by
    simp only [readChars, h, if_false]
    cases readChars n cs <;> rfl
  have hescape (es : List Char) (h : unescape (es ++ cs) = .ok (c, cs)) :
      readChars (n + 1) ('\\' :: es ++ cs) = (readChars n cs).map fun r => (c :: r.1, r.2) := by
    have hquote : ('\\' : Char) ≠ '"' := by decide
    simp only [List.cons_append, readChars, hquote, if_false, if_true, h, Bind.bind, Except.bind]
    cases readChars n cs <;> rfl
  have hcode (k : Nat) (h : c.toNat = k) : c = Char.ofNat k := by rw [← h, Char.ofNat_toNat]
  unfold escape
  split_ifs with hquote hslash hback htab hline hfeed hreturn hcontrol
  · exact hescape ['"'] (by rw [hquote]; rfl)
  · exact hescape ['\\'] (by rw [hslash]; rfl)
  · exact hescape ['b'] (by rw [hcode 8 hback]; rfl)
  · exact hescape ['t'] (by rw [htab]; rfl)
  · exact hescape ['n'] (by rw [hline]; rfl)
  · exact hescape ['f'] (by rw [hcode 12 hfeed]; rfl)
  · exact hescape ['r'] (by rw [hreturn]; rfl)
  · exact hescape _ (unicodeEscape_hexFigure c cs hcontrol)
  · exact hplain ⟨hquote, hslash, hcontrol⟩

theorem readChars_flatMap_escape (n : Nat) (s rest : List Char) (h : s.length < n) :
    readChars n (s.flatMap escape ++ '"' :: rest) = .ok (s, rest) := by
  induction s generalizing n with
  | nil =>
    obtain ⟨n, rfl⟩ := Nat.exists_eq_add_of_lt h
    simp [readChars]
  | cons c s ih =>
    obtain ⟨n, rfl⟩ : ∃ k, n = k + 1 := ⟨n - 1, by omega⟩
    rw [List.length_cons] at h
    rw [List.flatMap_cons, List.append_assoc, readChars_escape, ih n (by omega)]
    rfl

theorem length_le_flatMap_escape (s : List Char) : s.length ≤ (s.flatMap escape).length := by
  induction s with
  | nil => exact Nat.le_refl 0
  | cons c s ih =>
    have hpos : 0 < (escape c).length := by
      unfold escape
      split_ifs <;> exact Nat.succ_pos _
    rw [List.flatMap_cons, List.length_append, List.length_cons]
    omega

theorem readText_flatMap_escape (s : String) (rest : List Char) :
    readText (s.toList.flatMap escape ++ '"' :: rest) = .ok (s, rest) := by
  have hlength := length_le_flatMap_escape s.toList
  rw [readText, readChars_flatMap_escape _ s.toList rest (by rw [List.length_append]; omega)]
  simp [Except.map]

end BenchReport.Json
