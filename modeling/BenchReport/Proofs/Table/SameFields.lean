import BenchReport.Proofs.Lookup
import BenchReport.Proofs.Table.Acceptance
import BenchReport.Summary
import Mathlib.Data.List.Count

namespace BenchReport

namespace Table

def DistinctNames (header : List String) : Prop := (header.filter (· ≠ "")).Nodup

instance (header : List String) : Decidable (DistinctNames header) :=
  inferInstanceAs (Decidable (List.Nodup _))

theorem mem_metricNames_iff (header : List String) (h : DistinctNames header) (name : String) :
    name ∈ metricNames header ↔ name ∈ header ∧ name ≠ "" ∧ name ∉ Column.keys := by
  rw [metricNames, List.mem_filter, decide_eq_true_iff, and_comm (a := name ∈ header), and_comm,
    and_assoc]
  apply and_congr_right
  intro hne
  constructor
  · intro hmem
    refine ⟨?_, List.diff_subset header Column.keys hmem⟩
    -- a key is named once at most, and that once is taken away
    intro hkey
    have honce : header.count name ≤ 1 := by
      rw [← List.count_filter (p := (· ≠ "")) (by simpa using hne)]
      exact List.nodup_iff_count_le_one.mp h name
    have hkeys := List.count_pos_iff.mpr hkey
    have hleft := List.count_pos_iff.mpr hmem
    rw [List.count_diff] at hleft
    omega
  · rintro ⟨hkey, hmem⟩
    exact List.mem_diff_of_mem hmem hkey

def NamedOnce (fields : List (String × String)) : Prop :=
  ∀ name a b, name ≠ "" → (name, a) ∈ fields → (name, b) ∈ fields → a = b

theorem namedOnce_zip (header cells : List String) (h : DistinctNames header) :
    NamedOnce (header.zip cells) := by
  intro name a b hne ha hb
  rw [DistinctNames, List.Nodup, List.pairwise_filter] at h
  induction header generalizing cells with
  | nil => cases ha
  | cons first header ih =>
    cases cells with
    | nil => cases ha
    | cons text cells =>
      obtain ⟨hfirst, hrest⟩ := List.pairwise_cons.mp h
      have hother (c : String) (hc : (name, c) ∈ header.zip cells) : name ≠ first := by
        rintro rfl
        exact hfirst name (List.of_mem_zip hc).1 (by simpa using hne) (by simpa using hne) rfl
      rw [List.zip_cons_cons, List.mem_cons, Prod.mk.injEq] at ha hb
      rcases ha with ⟨hname, rfl⟩ | ha
      · rcases hb with ⟨-, rfl⟩ | hb
        · rfl
        · exact absurd hname (hother b hb)
      · rcases hb with ⟨hname, -⟩ | hb
        · exact absurd hname (hother a ha)
        · exact ih cells hrest ha hb

theorem NamedOnce.lookup_eq_some_iff {fields : List (String × String)} (h : NamedOnce fields)
    (name text : String) (hne : name ≠ "") :
    fields.lookup name = some text ↔ (name, text) ∈ fields :=
  ⟨mem_of_lookup, fun hmem => lookup_of_unique hmem fun other hother =>
    h name other text hne hother hmem⟩

theorem metricFields_subset {α : Type} (fields : List (String × α)) :
    metricFields fields ⊆ fields := by
  have herase (keys : List String) (fs : List (String × α)) :
      (keys.foldl (fun fs key => fs.eraseP (·.1 = key)) fs).Sublist fs := by
    induction keys generalizing fs with
    | nil => exact .refl fs
    | cons key keys ih => exact (ih _).trans List.eraseP_sublist
  exact (List.filter_sublist.trans (herase Column.keys fields)).subset

theorem NamedOnce.mem_metricFields_iff {fields : List (String × String)} (h : NamedOnce fields)
    (c : String × String) :
    c ∈ metricFields fields ↔ c ∈ fields ∧ c.1 ∈ metricNames (fields.map (·.1)) := by
  rw [← metricFields_names]
  constructor
  · intro hc
    exact ⟨metricFields_subset fields hc, List.mem_map_of_mem hc⟩
  · rintro ⟨hc, hname⟩
    obtain ⟨d, hd, heq⟩ := List.mem_map.mp hname
    have hne : d.1 ≠ "" := by simpa using (List.mem_filter.mp hd).2
    have hvalue := h d.1 d.2 c.2 hne (metricFields_subset fields hd) (heq ▸ hc)
    rwa [← Prod.ext heq hvalue]

def SameFields (fields fields' : List (String × String)) : Prop :=
  ∀ name text, name ≠ "" → ((name, text) ∈ fields' ↔ (name, text) ∈ fields)

structure SameHeader (header header' : List String) : Prop where
  distinct : DistinctNames header
  distinct' : DistinctNames header'
  names : ∀ name, name ≠ "" → (name ∈ header' ↔ name ∈ header)

section SameFields

variable {header header' cells cells' : List String}

theorem SameHeader.mem_metricNames_iff (h : SameHeader header header') (name : String) :
    name ∈ metricNames header' ↔ name ∈ metricNames header := by
  rw [Table.mem_metricNames_iff header' h.distinct', Table.mem_metricNames_iff header h.distinct]
  constructor
  · rintro ⟨hmem, hne, hkey⟩
    exact ⟨(h.names name hne).mp hmem, hne, hkey⟩
  · rintro ⟨hmem, hne, hkey⟩
    exact ⟨(h.names name hne).mpr hmem, hne, hkey⟩

theorem lookup_eq_of_sameFields (h : SameHeader header header')
    (hfields : SameFields (header.zip cells) (header'.zip cells')) (name : String) (hne : name ≠ "") :
    (header'.zip cells').lookup name = (header.zip cells).lookup name := by
  apply Option.ext
  intro text
  rw [(namedOnce_zip header' cells' h.distinct').lookup_eq_some_iff name text hne,
    (namedOnce_zip header cells h.distinct).lookup_eq_some_iff name text hne, hfields name text hne]

theorem readable_of_sameFields (h : SameHeader header header')
    (hlength : cells.length = header.length) (hlength' : cells'.length = header'.length)
    (hfields : SameFields (header.zip cells) (header'.zip cells'))
    (hreadable : Readable (header.zip cells)) : Readable (header'.zip cells') := by
  have hlookup := lookup_eq_of_sameFields h hfields
  constructor
  · rw [hlookup Column.sortedness (by decide)]
    exact hreadable.sortedness
  · rw [hlookup Column.readRatio (by decide)]
    exact hreadable.readRatio
  · intro c hc
    apply hreadable.metrics c
    rw [NamedOnce.mem_metricFields_iff (namedOnce_zip _ _ h.distinct'),
      List.map_fst_zip hlength'.ge, h.mem_metricNames_iff] at hc
    rw [NamedOnce.mem_metricFields_iff (namedOnce_zip _ _ h.distinct), List.map_fst_zip hlength.ge]
    have hne := ((Table.mem_metricNames_iff header h.distinct c.1).mp hc.2).2.1
    exact ⟨(hfields c.1 c.2 hne).mp hc.1, hc.2⟩

theorem isKey_unique {text : String} {x y : Double} (htext : IsKeyText text) (hx : IsKey text x)
    (hy : IsKey text y) : x = y := by
  have hread := (readFraction_eq_ok_iff 0 "" text x).mpr ⟨htext, hx⟩
  rw [(readFraction_eq_ok_iff 0 "" text y).mpr ⟨htext, hy⟩] at hread
  exact (Except.ok.inj hread).symm

theorem isValue_unique {text : String} {v w : Option Double} (hv : IsValue text v)
    (hw : IsValue text w) : v = w := by
  apply Option.ext
  intro x
  rw [hv x, hw x]

theorem Describes.value {fields : List (String × String)} {r : Row} (h : Describes fields r)
    (name : String) (i : Nat) (hi : (metricNames (fields.map (·.1))).idxOf? name = some i) :
    ∃ text, (name, text) ∈ fields ∧ IsValue text (r.value i) := by
  rw [← metricFields_names] at hi
  obtain ⟨hlt, hname, -⟩ := List.findIdx?_eq_some_iff_getElem.mp hi
  rw [List.length_map] at hlt
  have hlt' : i < r.values.length := h.values.length_eq ▸ hlt
  have hfound : ((metricFields fields)[i]).1 = name := by simpa using hname
  have hvalue := h.values.get hlt hlt'
  refine ⟨((metricFields fields)[i]).2, ?_, ?_⟩
  · rw [← hfound]
    exact metricFields_subset fields (List.getElem_mem hlt)
  · rw [Row.value, List.getElem?_eq_getElem hlt']
    exact hvalue

structure SameCells (columns columns' : List String) (r r' : Row) : Prop where
  configuration : r'.configuration = r.configuration
  value : ∀ name i i', columns.idxOf? name = some i → columns'.idxOf? name = some i' →
    r'.value i' = r.value i

theorem sameCells_of_sameFields (h : SameHeader header header')
    (hlength : cells.length = header.length) (hlength' : cells'.length = header'.length)
    (hfields : SameFields (header.zip cells) (header'.zip cells')) {r r' : Row}
    (hreadable : Readable (header.zip cells)) (hr : Describes (header.zip cells) r)
    (hr' : Describes (header'.zip cells') r') :
    SameCells (metricNames header) (metricNames header') r r' := by
  have hlookup := lookup_eq_of_sameFields h hfields
  constructor
  · have hlabel := hr'.label
    rw [hlookup Column.treeType (by decide), hr.label, Option.some.injEq] at hlabel
    have hsortedness : r'.sortedness = r.sortedness := by
      obtain ⟨text, hread, htext⟩ := hreadable.sortedness
      obtain ⟨s, hs, hkey⟩ := hr.sortedness
      obtain ⟨s', hs', hkey'⟩ := hr'.sortedness
      rw [hlookup Column.sortedness (by decide), hread, Option.some.injEq] at hs'
      rw [hread, Option.some.injEq] at hs
      exact isKey_unique htext (hs' ▸ hkey') (hs ▸ hkey)
    have hratio : r'.readRatio = r.readRatio := by
      obtain ⟨text, hread, htext⟩ := hreadable.readRatio
      obtain ⟨s, hs, hkey⟩ := hr.readRatio
      obtain ⟨s', hs', hkey'⟩ := hr'.readRatio
      rw [hlookup Column.readRatio (by decide), hread, Option.some.injEq] at hs'
      rw [hread, Option.some.injEq] at hs
      exact isKey_unique htext (hs' ▸ hkey') (hs ▸ hkey)
    rw [Row.configuration, Row.configuration, hlabel, hsortedness, hratio]
  · intro name i i' hi hi'
    have hname : name ∈ metricNames header := (exists_idxOf?_iff _ name).mp ⟨i, hi⟩
    have hne := ((Table.mem_metricNames_iff header h.distinct name).mp hname).2.1
    rw [← List.map_fst_zip hlength.ge] at hi
    rw [← List.map_fst_zip hlength'.ge] at hi'
    obtain ⟨text, hmem, hvalue⟩ := hr.value name i hi
    obtain ⟨text', hmem', hvalue'⟩ := hr'.value name i' hi'
    have htext := namedOnce_zip header cells h.distinct name text' text hne
      ((hfields name text' hne).mp hmem') hmem
    exact isValue_unique (htext ▸ hvalue') hvalue

end SameFields

theorem columnValues?_of_sameCells (t t' : Table)
    (hnames : ∀ name, name ∈ t'.columns ↔ name ∈ t.columns)
    (hrows : List.Forall₂ (SameCells t.columns t'.columns) t.rows t'.rows) (name : String) :
    t'.columnValues? name = t.columnValues? name := by
  unfold columnValues? columnIndex?
  cases hi : t.columns.idxOf? name with
  | none =>
    have hmissing := List.idxOf?_eq_none_iff.mp hi
    rw [List.idxOf?_eq_none_iff.mpr (mt (hnames name).mp hmissing)]
    rfl
  | some i =>
    have hfound : name ∈ t.columns := (exists_idxOf?_iff _ name).mp ⟨i, hi⟩
    obtain ⟨i', hi'⟩ := (exists_idxOf?_iff _ name).mpr ((hnames name).mpr hfound)
    rw [hi', Option.map_some, Option.map_some, Option.some.injEq, ← List.forall₂_eq_eq_eq,
      List.forall₂_map_left_iff, List.forall₂_map_right_iff]
    exact (hrows.imp fun r r' h => h.value name i i' hi hi').flip

end Table

end BenchReport
