import BenchReport.Proofs.Csv.Decoder
import BenchReport.Proofs.Except

namespace BenchReport.Csv

open Text
open String (utf8EncodeChar)

def Spells (field : Bytes) (text : String) : Prop := ∃ s, field = toBytes s ∧ text = trim s

theorem toBytes_ofList (cs : List Char) : toBytes (String.ofList cs) = cs.flatMap utf8EncodeChar := by
  rw [toBytes, String.toList_ofList]

theorem toBytes_of_blankBytes (bs : Bytes) (h : ∀ b ∈ bs, isBlankByte b) :
    ∃ cs : List Char, bs = cs.flatMap utf8EncodeChar ∧ ∀ c ∈ cs, isBlank c := by
  induction bs with
  | nil => exact ⟨[], rfl, by simp⟩
  | cons b bs ih =>
    obtain ⟨hb, hbs⟩ := List.forall_mem_cons.mp h
    obtain ⟨cs, rfl, hcs⟩ := ih hbs
    have hcases : b = 9 ∨ b = 10 ∨ b = 12 ∨ b = 13 ∨ b = 32 := by simpa [isBlankByte] using hb
    have hspell : utf8EncodeChar (Char.ofNat b.toNat) = [b] := by
      rcases hcases with rfl | rfl | rfl | rfl | rfl <;> decide
    refine ⟨Char.ofNat b.toNat :: cs, ?_, List.forall_mem_cons.mpr ⟨?_, hcs⟩⟩
    · rw [List.flatMap_cons, hspell, List.singleton_append]
    · apply isBlank_of_isBlankByte _ b hb
      rw [hspell]
      exact List.mem_singleton_self b

theorem blankBytes_of_isAsciiBlank (cs : List Char) (h : ∀ c ∈ cs, isAsciiBlank c) :
    ∀ b ∈ cs.flatMap utf8EncodeChar, isBlankByte b := by
  intro b hb
  obtain ⟨c, hc, hb⟩ := List.mem_flatMap.mp hb
  obtain ⟨d, hd, hblank⟩ := List.any_eq_true.mp (h c hc)
  have hlt : d.toNat < 128 := by
    have hcases : d = 9 ∨ d = 10 ∨ d = 12 ∨ d = 13 ∨ d = 32 := by simpa [isBlankByte] using hblank
    rcases hcases with rfl | rfl | rfl | rfl | rfl <;> decide
  -- a character below 128 has one byte
  have hcode := toNat_eq_of_mem_utf8EncodeChar c d hlt hd
  rw [utf8EncodeChar_of_lt c (by omega), List.mem_singleton] at hb hd
  rwa [hb, ← hd]

theorem trim_append (before s after : List Char) (hbefore : ∀ c ∈ before, isBlank c)
    (hafter : ∀ c ∈ after, isBlank c) :
    trim (String.ofList (before ++ s ++ after)) = trim (String.ofList s) := by
  simp only [trim, trimChars, String.toList_ofList, strip_append isBlank before s after hbefore hafter]

theorem spells_stripBlanks_iff (field : Bytes) (text : String) :
    Spells (stripBlanks field) text ↔ Spells field text := by
  constructor
  · rintro ⟨s, hs, rfl⟩
    obtain ⟨before, after, hbefore, hafter, hfield⟩ := exists_strip isBlankByte field
    obtain ⟨cs, rfl, hcs⟩ := toBytes_of_blankBytes before hbefore
    obtain ⟨ds, rfl, hds⟩ := toBytes_of_blankBytes after hafter
    refine ⟨String.ofList (cs ++ s.toList ++ ds), ?_, ?_⟩
    · rw [toBytes_ofList, List.flatMap_append, List.flatMap_append, ← toBytes, ← hs]
      exact hfield
    · rw [trim_append cs _ ds hcs hds, String.ofList_toList]
  · rintro ⟨s, rfl, rfl⟩
    obtain ⟨cs, ds, hcs, hds, hs⟩ := exists_strip isAsciiBlank s.toList
    have hbare := strip_bare isAsciiBlank s.toList
    generalize ((s.toList.dropWhile isAsciiBlank).reverse.dropWhile isAsciiBlank).reverse = m at hs hbare
    refine ⟨String.ofList m, ?_, ?_⟩
    · have hstrip := strip_append isBlankByte (cs.flatMap utf8EncodeChar) (m.flatMap utf8EncodeChar)
        (ds.flatMap utf8EncodeChar) (blankBytes_of_isAsciiBlank cs hcs)
        (blankBytes_of_isAsciiBlank ds hds)
      have hself := strip_eq_self isBlankByte _
        (toBytes_bare (String.ofList m) (by rwa [String.toList_ofList]))
      rw [toBytes_ofList] at hself ⊢
      rw [toBytes, hs, List.flatMap_append, List.flatMap_append, stripBlanks, hstrip, hself]
    · have hblank (es : List Char) (hes : ∀ c ∈ es, isAsciiBlank c) : ∀ c ∈ es, isBlank c :=
        fun c hc => isBlank_of_isAsciiBlank c (hes c hc)
      rw [← String.ofList_toList (s := s), hs, trim_append cs m ds (hblank cs hcs) (hblank ds hds)]

theorem decodeFields_eq_ok_iff (record : Nat) (start : Position) (field : Nat) (fs : List Bytes)
    (texts : List String) :
    decodeFields record start field fs = .ok texts ↔ List.Forall₂ Spells fs texts := by
  induction fs generalizing field texts with
  | nil => simp [decodeFields, eq_comm]
  | cons f fs ih =>
    rw [decodeFields]
    cases hread : ofBytes f with
    | error valid =>
      simp only [reduceCtorEq, false_iff]
      rintro (_ | ⟨⟨s, rfl, -⟩, -⟩)
      rw [ofBytes_toBytes] at hread
      cases hread
    | ok s =>
      have hf := (ofBytes_eq_ok_iff f s).mp hread
      constructor
      · intro h
        cases hrest : decodeFields record start (field + 1) fs with
        | error fault => simp [hrest, Except.map] at h
        | ok rest =>
          rw [hrest] at h
          obtain rfl : trim s :: rest = texts := Except.ok.inj h
          exact .cons ⟨s, hf, rfl⟩ ((ih (field + 1) rest).mp hrest)
      · rintro (_ | @⟨_, _, _, rest, ⟨s', hs', rfl⟩, hrest⟩)
        obtain rfl : s = s' := toBytes_injective s s' (hf.symm.trans hs')
        simp only [(ih (field + 1) rest).mpr hrest, Except.map]

theorem decodeFields_eq_error_iff (record : Nat) (start : Position) (field : Nat) (fs : List Bytes)
    (fault : Fault) :
    decodeFields record start field fs = .error fault ↔ ∃ before f after,
      fs = before ++ f :: after ∧ (∀ g ∈ before, ∃ text, Spells g text) ∧
        ∃ valid, ofBytes f = .error valid ∧
          fault = .encoding record start (field + before.length) valid := by
  induction fs generalizing field with
  | nil => simp [decodeFields]
  | cons f fs ih =>
    have hstep : decodeFields record start field (f :: fs) = .error fault ↔
        (∃ valid, ofBytes f = .error valid ∧ fault = .encoding record start field valid) ∨
          (∃ text, Spells f text) ∧ decodeFields record start (field + 1) fs = .error fault := by
      rw [decodeFields]
      cases hread : ofBytes f with
      | error valid =>
        have hno : ¬ ∃ text, Spells f text := by
          rintro ⟨-, s, rfl, -⟩
          rw [ofBytes_toBytes] at hread
          cases hread
        simp [hno, eq_comm]
      | ok s =>
        have hspelled : ∃ text, Spells f text := ⟨_, s, (ofBytes_eq_ok_iff f s).mp hread, rfl⟩
        cases decodeFields record start (field + 1) fs <;> simp [hspelled, Except.map]
    rw [hstep, ih (field + 1)]
    simp only [Nat.add_assoc, Nat.add_comm 1]
    exact (exists_first_cons_iff (fun g => ∃ text, Spells g text)
      (fun i g => ∃ valid, ofBytes g = .error valid ∧
        fault = .encoding record start (field + i) valid) f fs).symm

theorem forall₂_spells_stripBlanks_iff (fs : List Bytes) (texts : List String) :
    List.Forall₂ Spells (fs.map stripBlanks) texts ↔ List.Forall₂ Spells fs texts := by
  rw [List.forall₂_map_left_iff]
  simp only [spells_stripBlanks_iff]

theorem decodeRecord_eq_ok_iff (width record : Nat) (r : Record) (cells : List String) :
    decodeRecord width record r = .ok cells ↔
      r.fields.length = width ∧ List.Forall₂ Spells r.fields cells := by
  unfold decodeRecord
  split_ifs with hwidth
  · rw [decodeFields_eq_ok_iff, forall₂_spells_stripBlanks_iff]
    simp [hwidth]
  · simp [hwidth]

inductive RecordFault (width record : Nat) (r : Record) : Fault → Prop
  | fieldCount : r.fields.length ≠ width →
    RecordFault width record r (.fieldCount record r.start r.fields.length width)
  | encoding (before : List Bytes) (field : Bytes) (after : List Bytes) (valid : Nat) :
    r.fields.length = width → r.fields = before ++ field :: after →
    (∀ f ∈ before, ∃ text, Spells f text) → ofBytes (stripBlanks field) = .error valid →
    RecordFault width record r (.encoding record r.start before.length valid)

theorem decodeRecord_eq_error_iff (width record : Nat) (r : Record) (fault : Fault) :
    decodeRecord width record r = .error fault ↔ RecordFault width record r fault := by
  unfold decodeRecord
  split_ifs with hwidth
  · rw [decodeFields_eq_error_iff]
    constructor
    · rintro ⟨before, f, after, hsplit, hbefore, valid, hf, rfl⟩
      obtain ⟨fs, gs, hfields, rfl, hgs⟩ := List.map_eq_append_iff.mp hsplit
      obtain ⟨g, gs, rfl, rfl, -⟩ := List.map_eq_cons_iff.mp hgs
      simp only [List.forall_mem_map, spells_stripBlanks_iff] at hbefore
      rw [List.length_map, Nat.zero_add]
      exact .encoding fs g gs valid hwidth hfields hbefore hf
    · intro h
      cases h with
      | fieldCount hne => exact absurd hwidth hne
      | encoding before f after valid _ hfields hbefore hf =>
        refine ⟨before.map stripBlanks, stripBlanks f, after.map stripBlanks, ?_, ?_, valid, hf, ?_⟩
        · rw [hfields, List.map_append, List.map_cons]
        · simpa only [List.forall_mem_map, spells_stripBlanks_iff] using hbefore
        · rw [List.length_map, Nat.zero_add]
  · constructor
    · intro h
      obtain rfl := Except.error.inj h
      exact .fieldCount hwidth
    · intro h
      cases h with
      | fieldCount _ => rfl
      | encoding _ _ _ _ hlength => exact absurd hlength hwidth

end BenchReport.Csv
