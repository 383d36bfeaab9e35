import BenchReport.Proofs.Text.Bytes
import Mathlib.Data.String.Basic

namespace BenchReport.Text

open String (utf8EncodeChar)

theorem utf8EncodeChar_append_lt (c d : Char) (h : c < d) (bs bs' : Bytes) :
    utf8EncodeChar c ++ bs < utf8EncodeChar d ++ bs' := by
  have hlt : c.toNat < d.toNat := h
  have hlast := toNat_lt_end d
  -- the bytes behind the first one hold the digits to the base 64
  have hsecond (n : Nat) : n / 4096 = n / 64 / 64 := by omega
  have hthird (n : Nat) : n / 262144 = n / 64 / 64 / 64 := by omega
  unfold utf8EncodeChar
  dsimp only
  rw [Char.toNat_val, Char.toNat_val]
  split_ifs
  all_goals simp only [List.cons_append, List.nil_append, List.cons_lt_cons_iff,
    UInt8.lt_iff_toNat_lt, ← UInt8.toNat_inj, UInt8.toNat_ofNat', hsecond, hthird]
  all_goals omega

theorem flatMap_utf8EncodeChar_lt (cs ds : List Char) (h : cs < ds) :
    cs.flatMap utf8EncodeChar < ds.flatMap utf8EncodeChar := by
  induction cs generalizing ds with
  | nil =>
    cases ds with
    | nil => exact absurd h (List.lt_irrefl _)
    | cons d ds =>
      obtain ⟨b, bs, hspell, -⟩ := utf8EncodeChar_spelling d
      rw [List.flatMap_cons, hspell]
      exact List.nil_lt_cons _ _
  | cons c cs ih =>
    cases ds with
    | nil => exact absurd h (List.not_lt_nil _)
    | cons d ds =>
      rw [List.flatMap_cons, List.flatMap_cons]
      rcases List.cons_lt_cons_iff.mp h with hlt | ⟨rfl, hlt⟩
      · exact utf8EncodeChar_append_lt c d hlt _ _
      · exact List.append_left_lt (ih ds hlt)

theorem toBytes_lt_iff (s t : String) : toBytes s < toBytes t ↔ s < t := by
  have hmono (s t : String) (h : s < t) : toBytes s < toBytes t :=
    flatMap_utf8EncodeChar_lt _ _ (String.lt_iff_toList_lt.mp h)
  constructor
  · intro h
    rcases lt_trichotomy s t with hlt | rfl | hgt
    · exact hlt
    · exact absurd h (List.lt_irrefl _)
    · exact absurd h (List.lt_asymm (hmono t s hgt))
  · exact hmono s t

theorem compare_eq_lt_iff_toBytes (s t : String) :
    compare s t = .lt ↔ toBytes s < toBytes t := by
  rw [toBytes_lt_iff]
  exact compareOfLessAndEq_eq_lt

end BenchReport.Text
