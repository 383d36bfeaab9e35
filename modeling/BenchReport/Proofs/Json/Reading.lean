import BenchReport.Proofs.Json.Numeral
import BenchReport.Proofs.Json.Text
import Mathlib.Data.List.DropRight

namespace BenchReport.Json

mutual

def spelled : Json → Json
  | number x => if x.isFinite then number x else null
  | list items => list (spelledItems items)
  | object members => object (spelledMembers members)
  | j => j

def spelledItems : List Json → List Json
  | [] => []
  | j :: js => j.spelled :: spelledItems js

def spelledMembers : List (String × Json) → List (String × Json)
  | [] => []
  | (name, j) :: ms => (name, j.spelled) :: spelledMembers ms

end

theorem spelledItems_eq_map (js : List Json) : spelledItems js = js.map spelled := by
  induction js with
  | nil => rfl
  | cons j js ih => rw [spelledItems, ih, List.map_cons]

theorem spelledMembers_eq_map (ms : List (String × Json)) :
    spelledMembers ms = ms.map fun m => (m.1, m.2.spelled) := by
  induction ms with
  | nil => rfl
  | cons m ms ih => rw [spelledMembers, ih, List.map_cons]

theorem skipBlanks_newLine (depth : Nat) (cs : List Char) :
    skipBlanks (newLine depth ++ cs) = skipBlanks cs := by
  apply List.dropWhile_append_of_pos
  intro c hc
  rcases List.mem_cons.mp hc with rfl | hc
  · rfl
  · rw [List.eq_of_mem_replicate hc]
    rfl

theorem skipBlanks_cons (c : Char) (cs : List Char) (h : isBlank c = false) :
    skipBlanks (c :: cs) = c :: cs := by
  simp [skipBlanks, h]

theorem isBlank_of_isDigit (c : Char) (h : c.isDigit) : isBlank c = false := by
  apply decide_eq_false
  rintro (rfl | rfl | rfl | rfl) <;> exact absurd h (by decide)

theorem endsNumber_newLine (depth : Nat) (cs : List Char) : EndsNumber (newLine depth ++ cs) := by
  rintro c ⟨⟩
  decide

theorem endsNumber_comma (cs : List Char) : EndsNumber (',' :: cs) := by
  rintro c ⟨⟩
  decide

def StartsScalar (cs : List Char) : Prop :=
  ∃ c ds, cs = c :: ds ∧ isBlank c = false ∧ c ∉ ['[', ']', '\x7b']

theorem startsScalar_digit (c : Char) (cs : List Char) (h : c.isDigit) : StartsScalar (c :: cs) := by
  refine ⟨c, cs, rfl, isBlank_of_isDigit c h, ?_⟩
  intro hmem
  simp only [List.mem_cons, List.not_mem_nil, or_false] at hmem
  rcases hmem with rfl | rfl | rfl <;> exact absurd h (by decide)

theorem readScalar_digit (c : Char) (cs : List Char) (h : c.isDigit) :
    readScalar (c :: cs) = readNumeral false (c :: cs) := by
  have hplain : c ≠ 'n' ∧ c ≠ 't' ∧ c ≠ 'f' ∧ c ≠ '"' ∧ c ≠ '-' := by
    refine ⟨?_, ?_, ?_, ?_, ?_⟩ <;> (rintro rfl; exact absurd h (by decide))
  unfold readScalar
  split <;> simp_all

theorem writeNumber_of_isFinite (x : Double) (h : x.isFinite) :
    writeNumber x = x.signed ((Decimal.shortest .toEven x).write .json) := by
  rw [writeNumber, if_pos h, Double.write_of_isFinite .json x h]
  rfl

theorem writeNumber_of_not_isFinite (x : Double) (h : ¬ x.isFinite) :
    writeNumber x = "null".toList := if_neg h

theorem startsScalar_writeNumber (x : Double) : StartsScalar (writeNumber x) := by
  by_cases h : x.isFinite
  · obtain ⟨c, cs, hcs, hc⟩ := (Decimal.shortest .toEven x).write_json_head
    rw [writeNumber_of_isFinite x h, hcs, Double.signed]
    split_ifs
    · exact ⟨'-', c :: cs, rfl, by decide⟩
    · exact startsScalar_digit c cs hc
  · rw [writeNumber_of_not_isFinite x h]
    exact ⟨'n', _, rfl, by decide⟩

theorem readScalar_writeNumber (x : Double) (rest : List Char) (hrest : EndsNumber rest) :
    readScalar (writeNumber x ++ rest) = .ok ((number x).spelled, rest) := by
  by_cases h : x.isFinite
  · obtain ⟨c, cs, hcs, hc⟩ := (Decimal.shortest .toEven x).write_json_head
    have hread := readNumeral_shortest x h rest hrest
    rw [writeNumber_of_isFinite x h, spelled, if_pos h, Double.signed]
    cases hnegative : x.negative with
    | true =>
      rw [hnegative] at hread
      exact hread
    | false =>
      rw [hnegative, hcs] at hread
      rw [if_neg Bool.false_ne_true, hcs]
      exact (readScalar_digit c (cs ++ rest) hc).trans hread
  · rw [writeNumber_of_not_isFinite x h, spelled, if_neg h]
    rfl

theorem readValue_newLine (n depth : Nat) (cs : List Char) :
    readValue n (newLine depth ++ cs) = readValue n cs := by
  cases n with
  | zero => rw [readValue, readValue]
  | succ n => simp only [readValue, skipBlanks_newLine]

theorem readValue_scalar (n : Nat) (cs rest : List Char) (h : StartsScalar cs) :
    readValue (n + 1) (cs ++ rest) = readScalar (cs ++ rest) := by
  obtain ⟨c, ds, rfl, hblank, hplain⟩ := h
  rw [readValue, List.cons_append, skipBlanks_cons c _ hblank]
  split <;> simp_all

theorem indented_head (depth : Nat) (j : Json) :
    ∃ c cs, indented depth j = c :: cs ∧ isBlank c = false ∧ c ≠ ']' := by
  have hscalar (h : StartsScalar (indented depth j)) :
      ∃ c cs, indented depth j = c :: cs ∧ isBlank c = false ∧ c ≠ ']' := by
    obtain ⟨c, cs, hcs, hblank, hplain⟩ := h
    exact ⟨c, cs, hcs, hblank, fun hc => hplain (by simp [hc])⟩
  cases j with
  | null => exact hscalar ⟨'n', _, rfl, by decide⟩
  | bool b => cases b <;> exact hscalar ⟨_, _, rfl, by decide⟩
  | natural n =>
    obtain ⟨c, cs, hcs, hc⟩ := toDigits_cons n
    apply hscalar
    rw [indented, hcs]
    exact startsScalar_digit c cs hc
  | number x =>
    apply hscalar
    rw [indented]
    exact startsScalar_writeNumber x
  | text s => exact hscalar ⟨'"', _, rfl, by decide⟩
  | list items => cases items <;> exact ⟨'[', _, rfl, by decide⟩
  | object members => cases members <;> exact ⟨'\x7b', _, rfl, by decide⟩

structure ReadsBack (n : Nat) : Prop where
  value : ∀ (depth : Nat) (j : Json) (rest : List Char), (indented depth j).length < n →
    EndsNumber rest → readValue n (indented depth j ++ rest) = .ok (j.spelled, rest)
  items : ∀ (depth outer : Nat) (j : Json) (js : List Json) (rest : List Char),
    (indentedItems depth (j :: js)).length < n →
      readItems n (indentedItems depth (j :: js) ++ (newLine outer ++ ']' :: rest)) =
        .ok (spelledItems (j :: js), rest)
  members : ∀ (depth outer : Nat) (m : String × Json) (ms : List (String × Json))
    (rest : List Char), (indentedMembers depth (m :: ms)).length < n →
      readMembers n (indentedMembers depth (m :: ms) ++ (newLine outer ++ '\x7d' :: rest)) =
        .ok (spelledMembers (m :: ms), rest)

theorem skipBlanks_skipBlanks (cs : List Char) : skipBlanks (skipBlanks cs) = skipBlanks cs := by
  exact List.dropWhile_idempotent _ _

theorem readItems_skipBlanks (n : Nat) (cs : List Char) :
    readItems n (skipBlanks cs) = readItems n cs := by
  have hvalue (n : Nat) : readValue n (skipBlanks cs) = readValue n cs := by
    cases n <;> simp only [readValue, skipBlanks_skipBlanks]
  cases n <;> simp only [readItems, hvalue]

theorem readMembers_skipBlanks (n : Nat) (cs : List Char) :
    readMembers n (skipBlanks cs) = readMembers n cs := by
  cases n <;> simp only [readMembers, skipBlanks_skipBlanks]

theorem readValue_list (n : Nat) (cs : List Char) (h : (skipBlanks cs).head? ≠ some ']') :
    readValue (n + 1) ('[' :: cs) = (readItems n cs).map fun r => (list r.1, r.2) := by
  have hopen : skipBlanks ('[' :: cs) = '[' :: cs := rfl
  rw [← readItems_skipBlanks]
  simp only [readValue, hopen]
  split <;> simp_all

theorem readValue_object (n : Nat) (cs : List Char) (h : (skipBlanks cs).head? ≠ some '\x7d') :
    readValue (n + 1) ('\x7b' :: cs) = (readMembers n cs).map fun r => (object r.1, r.2) := by
  have hopen : skipBlanks ('\x7b' :: cs) = '\x7b' :: cs := rfl
  rw [← readMembers_skipBlanks]
  simp only [readValue, hopen]
  split <;> simp_all

theorem indentedItems_cons (depth : Nat) (j : Json) (js : List Json) :
    indentedItems depth (j :: js) = newLine depth ++ (indented depth j ++
      if js = [] then [] else ',' :: indentedItems depth js) := by
  cases js <;> simp [indentedItems]

theorem indentedMembers_cons (depth : Nat) (name : String) (j : Json) (ms : List (String × Json)) :
    indentedMembers depth ((name, j) :: ms) = newLine depth ++ (writeText name ++ ':' :: ' ' ::
      (indented depth j ++ if ms = [] then [] else ',' :: indentedMembers depth ms)) := by
  cases ms <;> simp [indentedMembers]

theorem ReadsBack.value_succ {n : Nat} (h : ReadsBack n) (depth : Nat) (j : Json) (rest : List Char)
    (hlength : (indented depth j).length < n + 1) (hrest : EndsNumber rest) :
    readValue (n + 1) (indented depth j ++ rest) = .ok (j.spelled, rest) := by
  cases j with
  | null => exact readValue_scalar n "null".toList rest ⟨'n', _, rfl, by decide⟩
  | bool b => cases b <;> exact readValue_scalar n _ rest ⟨_, _, rfl, by decide⟩
  | natural m =>
    obtain ⟨c, cs, hcs, hc⟩ := toDigits_cons m
    have hread := readNumeral_toDigits m rest hrest
    rw [hcs, List.cons_append, ← readScalar_digit c _ hc] at hread
    rw [indented, hcs, readValue_scalar n _ rest (startsScalar_digit c cs hc)]
    exact hread
  | number x =>
    rw [indented, readValue_scalar n _ rest (startsScalar_writeNumber x),
      readScalar_writeNumber x rest hrest]
  | text s =>
    have hread := readText_flatMap_escape s rest
    rw [indented, readValue_scalar n (writeText s) rest ⟨'"', _, rfl, by decide⟩, writeText,
      List.cons_append, List.append_assoc, List.singleton_append]
    simp only [readScalar, hread]
    rfl
  | list items =>
    cases items with
    | nil => rfl
    | cons j js =>
      have htext : indented depth (list (j :: js)) =
          '[' :: (indentedItems (depth + 1) (j :: js) ++ (newLine depth ++ [']'])) := by
        simp [indented]
      have hhead : (skipBlanks (indentedItems (depth + 1) (j :: js) ++
          (newLine depth ++ ']' :: rest))).head? ≠ some ']' := by
        obtain ⟨c, cs, hcs, hblank, hc⟩ := indented_head (depth + 1) j
        rw [indentedItems_cons, List.append_assoc, skipBlanks_newLine, hcs, List.cons_append,
          List.cons_append, skipBlanks_cons c _ hblank]
        simpa using hc
      rw [htext, List.length_cons, List.length_append] at hlength
      rw [htext, List.cons_append, List.append_assoc, List.append_assoc, List.singleton_append,
        readValue_list n _ hhead, h.items (depth + 1) depth j js rest (by omega)]
      rfl
  | object members =>
    cases members with
    | nil => rfl
    | cons m ms =>
      have htext : indented depth (object (m :: ms)) =
          '\x7b' :: (indentedMembers (depth + 1) (m :: ms) ++ (newLine depth ++ ['\x7d'])) := by
        simp [indented]
      have hhead : (skipBlanks (indentedMembers (depth + 1) (m :: ms) ++
          (newLine depth ++ '\x7d' :: rest))).head? ≠ some '\x7d' := by
        obtain ⟨name, j⟩ := m
        rw [indentedMembers_cons, List.append_assoc, skipBlanks_newLine, writeText, List.cons_append,
          List.cons_append, skipBlanks_cons '"' _ (by decide)]
        simp
      rw [htext, List.length_cons, List.length_append] at hlength
      rw [htext, List.cons_append, List.append_assoc, List.append_assoc, List.singleton_append,
        readValue_object n _ hhead, h.members (depth + 1) depth m ms rest (by omega)]
      rfl

section Step

variable {n depth : Nat} {cs ds rest : List Char} {j : Json}

theorem readItems_last (hvalue : readValue n cs = .ok (j, ds)) (hend : skipBlanks ds = ']' :: rest) :
    readItems (n + 1) (newLine depth ++ cs) = .ok ([j], rest) := by
  simp only [readItems, readValue_newLine, hvalue, hend, Bind.bind, Except.bind]

theorem readItems_more (hvalue : readValue n cs = .ok (j, ds)) (hnext : skipBlanks ds = ',' :: rest) :
    readItems (n + 1) (newLine depth ++ cs) = (readItems n rest).map fun r => (j :: r.1, r.2) := by
  simp only [readItems, readValue_newLine, hvalue, hnext, Bind.bind, Except.bind]

theorem readValue_blank (n : Nat) (cs : List Char) : readValue n (' ' :: cs) = readValue n cs := by
  cases n <;> rfl

theorem readName_writeText (name : String) (cs : List Char) :
    readName (skipBlanks (newLine depth ++ (writeText name ++ cs))) = .ok (name, cs) := by
  rw [skipBlanks_newLine, writeText, List.cons_append, skipBlanks_cons '"' _ (by decide),
    List.append_assoc, List.singleton_append]
  exact readText_flatMap_escape name cs

theorem skipColon_blank (cs : List Char) : skipColon (':' :: ' ' :: cs) = .ok (' ' :: cs) := rfl

theorem readMembers_last (name : String) (hvalue : readValue n cs = .ok (j, ds))
    (hend : skipBlanks ds = '\x7d' :: rest) :
    readMembers (n + 1) (newLine depth ++ (writeText name ++ ':' :: ' ' :: cs)) =
      .ok ([(name, j)], rest) := by
  simp only [readMembers, readName_writeText, skipColon_blank, readValue_blank, hvalue, hend,
    Bind.bind, Except.bind]

theorem readMembers_more (name : String) (hvalue : readValue n cs = .ok (j, ds))
    (hnext : skipBlanks ds = ',' :: rest) :
    readMembers (n + 1) (newLine depth ++ (writeText name ++ ':' :: ' ' :: cs)) =
      (readMembers n rest).map fun r => ((name, j) :: r.1, r.2) := by
  simp only [readMembers, readName_writeText, skipColon_blank, readValue_blank, hvalue, hnext,
    Bind.bind, Except.bind]

end Step

theorem ReadsBack.items_succ {n : Nat} (h : ReadsBack n) (depth outer : Nat) (j : Json)
    (js : List Json) (rest : List Char) (hlength : (indentedItems depth (j :: js)).length < n + 1) :
    readItems (n + 1) (indentedItems depth (j :: js) ++ (newLine outer ++ ']' :: rest)) =
      .ok (spelledItems (j :: js), rest) := by
  have hpos : 0 < (newLine depth).length := Nat.succ_pos _
  rw [indentedItems_cons] at hlength ⊢
  simp only [List.length_append] at hlength
  rw [List.append_assoc, List.append_assoc]
  cases js with
  | nil =>
    have hvalue := h.value depth j (newLine outer ++ ']' :: rest) (by omega) (endsNumber_newLine _ _)
    apply readItems_last hvalue
    rw [skipBlanks_newLine, skipBlanks_cons ']' rest (by decide)]
  | cons k js =>
    simp only [reduceCtorEq, if_false, List.length_cons] at hlength
    have hvalue := h.value depth j (',' :: (indentedItems depth (k :: js) ++
      (newLine outer ++ ']' :: rest))) (by omega) (endsNumber_comma _)
    have hitems := h.items depth outer k js rest (by omega)
    rw [if_neg (List.cons_ne_nil k js), List.cons_append,
      readItems_more hvalue (skipBlanks_cons ',' _ (by decide)), hitems]
    rfl

theorem ReadsBack.members_succ {n : Nat} (h : ReadsBack n) (depth outer : Nat) (m : String × Json)
    (ms : List (String × Json)) (rest : List Char)
    (hlength : (indentedMembers depth (m :: ms)).length < n + 1) :
    readMembers (n + 1) (indentedMembers depth (m :: ms) ++ (newLine outer ++ '\x7d' :: rest)) =
      .ok (spelledMembers (m :: ms), rest) := by
  obtain ⟨name, j⟩ := m
  have hpos : 0 < (newLine depth).length := Nat.succ_pos _
  rw [indentedMembers_cons] at hlength ⊢
  simp only [List.length_append, List.length_cons] at hlength
  simp only [List.append_assoc, List.cons_append]
  cases ms with
  | nil =>
    have hvalue := h.value depth j (newLine outer ++ '\x7d' :: rest) (by omega)
      (endsNumber_newLine _ _)
    apply readMembers_last name hvalue
    rw [skipBlanks_newLine, skipBlanks_cons '\x7d' rest (by decide)]
  | cons m ms =>
    simp only [reduceCtorEq, if_false, List.length_cons] at hlength
    have hvalue := h.value depth j (',' :: (indentedMembers depth (m :: ms) ++
      (newLine outer ++ '\x7d' :: rest))) (by omega) (endsNumber_comma _)
    have hmembers := h.members depth outer m ms rest (by omega)
    rw [if_neg (List.cons_ne_nil m ms), List.cons_append,
      readMembers_more name hvalue (skipBlanks_cons ',' _ (by decide)), hmembers]
    rfl

theorem readsBack (n : Nat) : ReadsBack n := by
  -- by the number of characters: the parts of a value have fewer of them than the value
  induction n with
  | zero =>
    constructor
    · exact fun _ _ _ h => absurd h (Nat.not_lt_zero _)
    · exact fun _ _ _ _ _ h => absurd h (Nat.not_lt_zero _)
    · exact fun _ _ _ _ _ h => absurd h (Nat.not_lt_zero _)
  | succ n ih => exact ⟨ih.value_succ, ih.items_succ, ih.members_succ⟩

theorem read_indented (j : Json) : read (String.ofList (indented 0 j)) = .ok j.spelled := by
  have hvalue := (readsBack ((indented 0 j).length + 1)).value 0 j [] (Nat.lt_succ_self _)
    (by rintro c ⟨⟩)
  rw [List.append_nil] at hvalue
  simp only [read, String.length_ofList, String.toList_ofList, hvalue, Bind.bind, Except.bind]
  rfl

end BenchReport.Json
