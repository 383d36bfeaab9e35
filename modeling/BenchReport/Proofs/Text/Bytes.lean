import BenchReport.Text.Bytes
import Mathlib.Data.Nat.Init
import Mathlib.Tactic.SplitIfs

namespace BenchReport.Text

open String

theorem toNat_lt_end (c : Char) : c.toNat < 0x110000 := by
  have hvalid : c.val.toNat < 0xd800 ∨ 0xdfff < c.val.toNat ∧ c.val.toNat < 0x110000 := c.valid
  rw [Char.toNat_val] at hvalid
  omega

theorem utf8EncodeChar_spelling (c : Char) :
    ∃ b rest, utf8EncodeChar c = b :: rest ∧ rest.length = width b - 1 ∧
      codePoint b rest = c.toNat := by
  have hlast := toNat_lt_end c
  unfold utf8EncodeChar
  dsimp only
  rw [Char.toNat_val]
  -- one case for each width, with what the first byte and the further ones hold
  split_ifs with h₁ h₂ h₃
  all_goals refine ⟨_, _, rfl, ?_, ?_⟩
  all_goals simp only [codePoint, width, Nat.pow_eq, UInt8.toNat_ofNat', List.length_cons,
    List.length_nil, List.foldl_cons, List.foldl_nil]
  all_goals split_ifs <;> omega

theorem firstChar?_utf8EncodeChar (c : Char) (bs : Bytes) :
    firstChar? (utf8EncodeChar c ++ bs) = some (c, bs) := by
  obtain ⟨b, rest, hspell, hlength, hcode⟩ := utf8EncodeChar_spelling c
  have htake : (rest ++ bs).take (width b - 1) = rest := by rw [← hlength, List.take_left]
  have hdrop : (rest ++ bs).drop (width b - 1) = bs := by rw [← hlength, List.drop_left]
  rw [hspell, List.cons_append, firstChar?]
  simp only [htake, hdrop, hcode, Char.ofNat_toNat, hspell, if_true]

theorem readChars_flatMap (n : Nat) (cs : List Char) (h : cs.length ≤ n) :
    readChars n (cs.flatMap utf8EncodeChar) = (cs, []) := by
  induction cs generalizing n with
  | nil => cases n <;> rfl
  | cons c cs ih =>
    obtain ⟨m, rfl⟩ : ∃ m, n = m + 1 := ⟨n - 1, by grind⟩
    have hm : cs.length ≤ m := Nat.le_of_succ_le_succ h
    rw [List.flatMap_cons, readChars, firstChar?_utf8EncodeChar]
    simp only [ih m hm, Prod.map, id]

theorem length_le_flatMap (cs : List Char) : cs.length ≤ (cs.flatMap utf8EncodeChar).length := by
  induction cs with
  | nil => exact Nat.zero_le _
  | cons c cs ih =>
    have hpos : 0 < (utf8EncodeChar c).length := List.length_pos_iff.mpr utf8EncodeChar_ne_nil
    rw [List.flatMap_cons, List.length_append, List.length_cons]
    omega

theorem ofBytes_toBytes (s : String) : ofBytes (toBytes s) = .ok s := by
  rw [ofBytes, toBytes, readChars_flatMap _ _ (length_le_flatMap _)]
  simp only [String.ofList_toList]

theorem firstChar?_spelling (bs rest : Bytes) (c : Char) (h : firstChar? bs = some (c, rest)) :
    utf8EncodeChar c ++ rest = bs := by
  cases bs with
  | nil => exact nomatch h
  | cons b bs =>
    simp only [firstChar?] at h
    split_ifs at h with hspell
    obtain ⟨rfl, rfl⟩ := Prod.mk.inj (Option.some.inj h)
    rw [hspell, List.cons_append, List.take_append_drop]

theorem readChars_spelling (n : Nat) (bs : Bytes) :
    (readChars n bs).1.flatMap utf8EncodeChar ++ (readChars n bs).2 = bs := by
  induction n generalizing bs with
  | zero => rfl
  | succ n ih =>
    rw [readChars]
    cases hfirst : firstChar? bs with
    | none => rfl
    | some first =>
      obtain ⟨c, rest⟩ := first
      simp only [Prod.map, id, List.flatMap_cons, List.append_assoc, ih]
      exact firstChar?_spelling bs rest c hfirst

theorem ofBytes_eq_ok_iff (bs : Bytes) (s : String) : ofBytes bs = .ok s ↔ bs = toBytes s := by
  constructor
  · intro h
    have hread := readChars_spelling bs.length bs
    unfold ofBytes at h
    split at h
    · rename_i cs hcs
      obtain rfl := Except.ok.inj h
      rw [hcs, List.append_nil] at hread
      rw [toBytes, String.toList_ofList, hread]
    · exact nomatch h
  · rintro rfl
    exact ofBytes_toBytes s

theorem toBytes_injective (s s' : String) (h : toBytes s = toBytes s') : s = s' := by
  have hread := ofBytes_toBytes s
  rw [h, ofBytes_toBytes] at hread
  exact (Except.ok.inj hread).symm

theorem utf8EncodeChar_of_lt (c : Char) (h : c.toNat < 128) :
    utf8EncodeChar c = [UInt8.ofNat c.toNat] := by
  simp [utf8EncodeChar, Nat.le_of_lt_succ h]

theorem le_of_mem_utf8EncodeChar (c : Char) (h : 128 ≤ c.toNat) (b : UInt8)
    (hb : b ∈ utf8EncodeChar c) : 128 ≤ b.toNat := by
  revert b
  unfold utf8EncodeChar
  dsimp only
  rw [Char.toNat_val]
  split_ifs
  all_goals simp only [List.forall_mem_cons, List.not_mem_nil, false_implies, implies_true,
    and_true, UInt8.toNat_ofNat']
  all_goals omega

theorem toNat_eq_of_mem_utf8EncodeChar (c : Char) (b : UInt8) (hb : b.toNat < 128)
    (h : b ∈ utf8EncodeChar c) : c.toNat = b.toNat := by
  have hc : c.toNat < 128 :=
    Nat.lt_of_not_ge fun hlarge => Nat.not_le_of_lt hb (le_of_mem_utf8EncodeChar c hlarge b h)
  rw [utf8EncodeChar_of_lt c hc, List.mem_singleton] at h
  rw [h, UInt8.toNat_ofNat']
  omega

end BenchReport.Text
