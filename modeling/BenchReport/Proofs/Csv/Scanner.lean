import BenchReport.Csv.Reader
import BenchReport.Csv.Writer
import BenchReport.Proofs.Text.Bytes

namespace BenchReport.Csv

open String Text

namespace Scanner

structure Reached (s : Scanner) (mode : Mode) (field : Bytes) (fields : List Bytes)
    (records : List (List Bytes)) : Prop where
  mode_eq : s.mode = mode
  field_eq : s.field = field
  fields_eq : s.fields = fields
  records_eq : s.records.map (·.fields) = records

def Special (b : UInt8) : Prop := b = comma ∨ b = quote ∨ b = lineFeed ∨ b = carriageReturn

namespace Reached

variable {s : Scanner} {mode : Mode} {field : Bytes} {fields : List Bytes}
  {records : List (List Bytes)}

theorem step_plain (b : UInt8) (h : s.Reached mode field fields records)
    (hmode : mode ≠ .quoted ∧ mode ≠ .closing) (hb : ¬ Special b) :
    (s.step b).Reached .bare (b :: field) fields records := by
  obtain ⟨rfl, rfl, rfl, rfl⟩ := h
  simp only [Special, not_or] at hb
  cases hm : s.mode <;>
    simp_all [step, openingStep, bareStep, keep] <;> constructor <;> rfl

theorem step_open (h : s.Reached mode field fields records)
    (hmode : mode = .between ∨ mode = .opening) :
    (s.step quote).Reached .quoted field fields records := by
  obtain ⟨rfl, rfl, rfl, rfl⟩ := h
  rcases hmode with hmode | hmode <;>
    simp [step, openingStep, hmode, quote, lineFeed, carriageReturn] <;> constructor <;> rfl

theorem step_quoted (b : UInt8) (h : s.Reached .quoted field fields records) (hb : b ≠ quote) :
    (s.step b).Reached .quoted (b :: field) fields records := by
  obtain ⟨hmode, rfl, rfl, rfl⟩ := h
  simp only [step, hmode, hb, keep, if_false]
  constructor <;> rfl

theorem step_close (h : s.Reached .quoted field fields records) :
    (s.step quote).Reached .closing field fields records := by
  obtain ⟨hmode, rfl, rfl, rfl⟩ := h
  simp only [step, hmode, if_true]
  constructor <;> rfl

theorem step_reopen (h : s.Reached .closing field fields records) :
    (s.step quote).Reached .quoted (quote :: field) fields records := by
  obtain ⟨hmode, rfl, rfl, rfl⟩ := h
  simp only [step, hmode, keep, if_true]
  constructor <;> rfl

theorem step_comma (h : s.Reached mode field fields records) (hmode : mode ≠ .quoted) :
    (s.step comma).Reached .opening [] (field.reverse :: fields) records := by
  obtain ⟨rfl, rfl, rfl, rfl⟩ := h
  cases hm : s.mode <;>
    simp_all [step, openingStep, bareStep, endField, comma, quote, lineFeed, carriageReturn] <;>
    constructor <;> rfl

theorem step_lineFeed (h : s.Reached mode field fields records)
    (hmode : mode ≠ .quoted ∧ mode ≠ .between) :
    (s.step lineFeed).Reached .between [] [] ((field.reverse :: fields).reverse :: records) := by
  obtain ⟨rfl, rfl, rfl, rfl⟩ := h
  cases hm : s.mode <;>
    simp_all [step, openingStep, bareStep, endRecord, endField, comma, quote, lineFeed] <;>
    constructor <;> simp

theorem foldl_plain (bs : Bytes) (h : s.Reached mode field fields records)
    (hmode : mode ≠ .quoted ∧ mode ≠ .closing) (hbs : ∀ b ∈ bs, ¬ Special b) :
    (bs.foldl step s).Reached (if bs = [] then mode else .bare) (bs.reverse ++ field) fields
      records := by
  induction bs generalizing s mode field with
  | nil => exact h
  | cons b bs ih =>
    have hstep := h.step_plain b hmode (hbs b List.mem_cons_self)
    have hrest := ih hstep (by decide) fun b' hb' => hbs b' (List.mem_cons_of_mem b hb')
    rw [List.foldl_cons, List.reverse_cons, List.append_assoc]
    simpa using hrest

theorem foldl_quoted (bs : Bytes) (h : s.Reached .quoted field fields records)
    (hbs : ∀ b ∈ bs, b ≠ quote) :
    (bs.foldl step s).Reached .quoted (bs.reverse ++ field) fields records := by
  induction bs generalizing s field with
  | nil => exact h
  | cons b bs ih =>
    have hstep := h.step_quoted b (hbs b List.mem_cons_self)
    rw [List.foldl_cons, List.reverse_cons, List.append_assoc]
    exact ih hstep fun b' hb' => hbs b' (List.mem_cons_of_mem b hb')

theorem foldl_doubled (cs : List Char) (h : s.Reached .quoted field fields records) :
    (((cs.flatMap fun c => if c = '"' then ['"', '"'] else [c]).flatMap utf8EncodeChar).foldl step
      s).Reached .quoted ((cs.flatMap utf8EncodeChar).reverse ++ field) fields records := by
  induction cs generalizing s field with
  | nil => exact h
  | cons c cs ih =>
    simp only [List.flatMap_cons, List.flatMap_append, List.foldl_append, List.reverse_append,
      List.append_assoc]
    apply ih
    by_cases hc : c = '"'
    · -- the first quote seems to close the field, and the second one opens it again
      subst hc
      exact h.step_close.step_reopen
    · have hne : ∀ b ∈ utf8EncodeChar c, b ≠ quote := by
        rintro b hb rfl
        exact hc (Char.toNat_inj.mp (toNat_eq_of_mem_utf8EncodeChar c quote (by decide) hb))
      rw [if_neg hc, List.flatMap_singleton]
      exact h.foldl_quoted _ hne

end Reached

theorem not_special (cs : List Char) (h : needsQuotes cs = false) :
    ∀ b ∈ cs.flatMap utf8EncodeChar, ¬ Special b := by
  intro b hb hspecial
  obtain ⟨c, hc, hb⟩ := List.mem_flatMap.mp hb
  have hplain := List.any_eq_false.mp h c hc
  simp only [decide_eq_true_eq, not_or] at hplain
  rcases hspecial with rfl | rfl | rfl | rfl
  · exact hplain.1 (Char.toNat_inj.mp (toNat_eq_of_mem_utf8EncodeChar c comma (by decide) hb))
  · exact hplain.2.1 (Char.toNat_inj.mp (toNat_eq_of_mem_utf8EncodeChar c quote (by decide) hb))
  · exact hplain.2.2.1 (Char.toNat_inj.mp (toNat_eq_of_mem_utf8EncodeChar c lineFeed (by decide) hb))
  · exact hplain.2.2.2
      (Char.toNat_inj.mp (toNat_eq_of_mem_utf8EncodeChar c carriageReturn (by decide) hb))

namespace Reached

variable {s : Scanner} {mode : Mode} {fields : List Bytes} {records : List (List Bytes)}

theorem foldl_writeField (cs : List Char) (h : s.Reached mode [] fields records)
    (hmode : mode = .between ∨ mode = .opening) :
    ∃ mode', mode' ≠ .quoted ∧ (mode' = .between → mode = .between) ∧
      (((writeField cs).flatMap utf8EncodeChar).foldl step s).Reached mode'
        (cs.flatMap utf8EncodeChar).reverse fields records := by
  unfold writeField
  split_ifs with hquotes
  · refine ⟨.closing, by decide, by simp, ?_⟩
    have hbody := (h.step_open hmode).foldl_doubled cs
    rw [List.append_nil] at hbody
    rw [List.flatMap_cons, List.flatMap_append, List.foldl_append, List.foldl_append]
    exact hbody.step_close
  · -- an empty field leaves no trace, so only the first field of a record may end between records
    have hplain := not_special cs (by simpa using hquotes)
    have hread := h.foldl_plain _ (by rcases hmode with rfl | rfl <;> decide) hplain
    rw [List.append_nil] at hread
    refine ⟨_, ?_, ?_, hread⟩
    · split_ifs
      · rcases hmode with rfl | rfl <;> decide
      · decide
    · split_ifs
      · exact id
      · simp

theorem foldl_fields (f : String) (fs : List String) (h : s.Reached .opening [] fields records) :
    ((([','].intercalate ((f :: fs).map fun f => writeField f.toList) ++ ['\n']).flatMap
      utf8EncodeChar).foldl step s).Reached .between [] []
        ((fields.reverse ++ (f :: fs).map toBytes) :: records) := by
  induction fs generalizing s f fields with
  | nil =>
    obtain ⟨mode', hquoted, hbetween, hfield⟩ := h.foldl_writeField f.toList (.inr rfl)
    have hend := hfield.step_lineFeed ⟨hquoted, fun hm => by simpa using hbetween hm⟩
    rw [List.reverse_cons, List.reverse_reverse] at hend
    rw [List.map_singleton, List.intercalate_singleton, List.flatMap_append, List.foldl_append]
    exact hend
  | cons g gs ih =>
    obtain ⟨mode', hquoted, -, hfield⟩ := h.foldl_writeField f.toList (.inr rfl)
    have hcomma := hfield.step_comma hquoted
    have hrest := ih g hcomma
    rw [List.reverse_reverse, List.reverse_cons, List.append_assoc] at hrest
    rw [List.map_cons, List.map_cons, List.intercalate_cons_cons]
    simp only [List.flatMap_append, List.foldl_append, List.append_assoc] at hrest ⊢
    exact hrest

theorem foldl_writeRecord (row : List String) (hrow : 2 ≤ row.length)
    (h : s.Reached .between [] [] records) :
    (((writeRecord row).flatMap utf8EncodeChar).foldl step s).Reached .between [] []
      (row.map toBytes :: records) := by
  obtain ⟨f, g, gs, rfl⟩ : ∃ f g gs, row = f :: g :: gs := by
    match row with
    | f :: g :: gs => exact ⟨f, g, gs, rfl⟩
  -- an empty first field does not start the record, but the comma after it does
  obtain ⟨mode', hquoted, -, hfield⟩ := h.foldl_writeField f.toList (.inl rfl)
  have hrest := (hfield.step_comma hquoted).foldl_fields g gs
  rw [List.reverse_reverse] at hrest
  rw [writeRecord, List.map_cons, List.map_cons, List.intercalate_cons_cons]
  simp only [List.flatMap_append, List.foldl_append, List.append_assoc] at hrest ⊢
  exact hrest

theorem foldl_write (rows : List (List String)) (hrows : ∀ row ∈ rows, 2 ≤ row.length)
    (h : s.Reached .between [] [] records) :
    ((toBytes (write rows)).foldl step s).Reached .between [] []
      ((rows.map (·.map toBytes)).reverse ++ records) := by
  rw [toBytes, write, String.toList_ofList]
  induction rows generalizing s records with
  | nil => exact h
  | cons row rows ih =>
    have hrow := h.foldl_writeRecord row (hrows row List.mem_cons_self)
    have hrest := ih (fun r hr => hrows r (List.mem_cons_of_mem row hr)) hrow
    rw [List.flatMap_cons, List.flatMap_append, List.foldl_append]
    simpa using hrest

end Reached

end Scanner

theorem split_write (rows : List (List String)) (hrows : ∀ row ∈ rows, 2 ≤ row.length)
    (hmark : byteOrderMark.isPrefixOf (toBytes (write rows)) = false) :
    (split (toBytes (write rows))).map (·.fields) = rows.map (·.map toBytes) := by
  have hstart : (Scanner.initial ⟨1, 0⟩).Reached .between [] [] [] := by constructor <;> rfl
  have hend := hstart.foldl_write rows hrows
  rw [split, hmark, if_neg (by simp), Scanner.finish, if_pos hend.mode_eq, List.map_reverse,
    hend.records_eq, List.append_nil, List.reverse_reverse]

end BenchReport.Csv
