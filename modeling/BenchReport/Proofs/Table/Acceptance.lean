import BenchReport.Proofs.Csv.Fields
import BenchReport.Proofs.Table.Cells
import BenchReport.Proofs.Table.Fields

namespace BenchReport

namespace Csv

theorem spells_unique : Relator.RightUnique Spells := by
  rintro field _ _ ⟨s, hs, rfl⟩ ⟨s', hs', rfl⟩
  rw [Text.toBytes_injective s s' (hs.symm.trans hs')]

end Csv

namespace Table

theorem exists_forall₂_iff {α β : Type} (R : α → β → Prop) (xs : List α) :
    (∃ ys, List.Forall₂ R xs ys) ↔ ∀ x ∈ xs, ∃ y, R x y := by
  induction xs with
  | nil => simp
  | cons x xs ih =>
    rw [List.forall_mem_cons, ← ih]
    constructor
    · rintro ⟨_, _ | ⟨hy, hys⟩⟩
      exact ⟨⟨_, hy⟩, _, hys⟩
    · rintro ⟨⟨y, hy⟩, ys, hys⟩
      exact ⟨y :: ys, .cons hy hys⟩

structure Readable (fields : List (String × String)) : Prop where
  sortedness : ∃ text, fields.lookup Column.sortedness = some text ∧ IsKeyText text
  readRatio : ∃ text, fields.lookup Column.readRatio = some text ∧ IsKeyText text
  metrics : ∀ m ∈ metricFields fields, IsMetricText m.2

structure Describes (fields : List (String × String)) (r : Row) : Prop where
  label : fields.lookup Column.treeType = some r.treeType
  sortedness : ∃ text, fields.lookup Column.sortedness = some text ∧ IsKey text r.sortedness
  readRatio : ∃ text, fields.lookup Column.readRatio = some text ∧ IsKey text r.readRatio
  values : List.Forall₂ (fun m v => IsValue m.2 v) (metricFields fields) r.values

def Admits (header : List String) (r : Csv.Record) : Prop :=
  r.fields.length = header.length ∧
    ∃ cells, List.Forall₂ Csv.Spells r.fields cells ∧ Readable (header.zip cells)

def Yields (header : List String) (r : Csv.Record) (row : Row) : Prop :=
  ∃ cells, List.Forall₂ Csv.Spells r.fields cells ∧ Describes (header.zip cells) row

structure Accepted (first : Csv.Record) (records : List Csv.Record) (header : List String) :
    Prop where
  spelled : List.Forall₂ Csv.Spells first.fields header
  keys : ∀ key ∈ Column.keys, key ∈ header
  records : ∀ r ∈ records, Admits header r

structure Transcribes (t : Table) (header : List String) (records : List Csv.Record) : Prop where
  columns : t.columns = metricNames header
  rows : List.Forall₂ (Yields header) records t.rows

section Layout

variable {source : Path} {header : List String} {l : Layout}

theorem readMetrics_of_layout (hl : layout source header = .ok l) (line : Nat) (cells : List String)
    (hlength : cells.length = header.length) (values : List (Option Double)) :
    readMetrics line cells l.metrics = .ok values ↔
      (∀ m ∈ metricFields (header.zip cells), IsMetricText m.2) ∧
        List.Forall₂ (fun m v => IsValue m.2 v) (metricFields (header.zip cells)) values := by
  obtain ⟨-, -, -, hmetrics⟩ := fields_of_layout source header cells l hl hlength
  rw [readMetrics_eq_ok_iff, hmetrics, List.forall₂_map_left_iff, List.forall_mem_map,
    ← List.forall₂_and_left]
  simp only [readCell_eq_ok_iff]

theorem readRow_of_layout (hl : layout source header = .ok l) (line : Nat) (cells : List String)
    (hlength : cells.length = header.length) (r : Row) :
    readRow l line cells = .ok r ↔
      Readable (header.zip cells) ∧ Describes (header.zip cells) r := by
  obtain ⟨htree, hsortedness, hratio, -⟩ := fields_of_layout source header cells l hl hlength
  rw [readRow_eq_ok_iff, readFraction_eq_ok_iff, readFraction_eq_ok_iff,
    readMetrics_of_layout hl line cells hlength]
  constructor
  · rintro ⟨hlabel, ⟨hs, hskey⟩, ⟨hq, hqkey⟩, hmetrics, hvalues⟩
    rw [← hlabel] at htree
    exact ⟨⟨⟨_, hsortedness, hs⟩, ⟨_, hratio, hq⟩, hmetrics⟩,
      ⟨htree, ⟨_, hsortedness, hskey⟩, ⟨_, hratio, hqkey⟩, hvalues⟩⟩
  · rintro ⟨⟨⟨s, hs, hstext⟩, ⟨q, hq, hqtext⟩, hmetrics⟩,
      ⟨hlabel, ⟨s', hs', hskey⟩, ⟨q', hq', hqkey⟩, hvalues⟩⟩
    rw [hsortedness, Option.some.injEq] at hs hs'
    rw [hratio, Option.some.injEq] at hq hq'
    rw [htree, Option.some.injEq] at hlabel
    subst hs hs' hq hq'
    exact ⟨hlabel.symm, ⟨hstext, hskey⟩, ⟨hqtext, hqkey⟩, hmetrics, hvalues⟩

theorem exists_readRow_iff (hl : layout source header = .ok l) (line : Nat) (cells : List String)
    (hlength : cells.length = header.length) :
    (∃ r, readRow l line cells = .ok r) ↔ Readable (header.zip cells) := by
  constructor
  · rintro ⟨r, hr⟩
    exact ((readRow_of_layout hl line cells hlength r).mp hr).1
  · rintro hreadable
    obtain ⟨⟨s, hs, hstext⟩, ⟨q, hq, hqtext⟩, hmetrics⟩ := hreadable
    obtain ⟨htree, -, -, -⟩ := fields_of_layout source header cells l hl hlength
    obtain ⟨x, hx⟩ := (exists_readFraction_iff line Column.sortedness s).mpr hstext
    obtain ⟨y, hy⟩ := (exists_readFraction_iff line Column.readRatio q).mpr hqtext
    have hcells : ∀ m ∈ metricFields (header.zip cells), ∃ v, IsValue m.2 v := by
      intro m hm
      obtain ⟨v, hv⟩ := (exists_readCell_iff line m.1 m.2).mpr (hmetrics m hm)
      exact ⟨v, ((readCell_eq_ok_iff line m.1 m.2 v).mp hv).2⟩
    obtain ⟨values, hvalues⟩ := (exists_forall₂_iff _ _).mpr hcells
    refine ⟨⟨_, x, y, values⟩, (readRow_of_layout hl line cells hlength _).mpr
      ⟨⟨⟨s, hs, hstext⟩, ⟨q, hq, hqtext⟩, hmetrics⟩, ⟨htree, ⟨s, hs, ?_⟩, ⟨q, hq, ?_⟩, hvalues⟩⟩⟩
    · exact ((readFraction_eq_ok_iff _ _ s x).mp hx).2
    · exact ((readFraction_eq_ok_iff _ _ q y).mp hy).2

theorem readLine_of_layout (hl : layout source header = .ok l) (n : Nat) (record : Csv.Record)
    (r : Row) :
    readLine l ⟨record.start.line, Csv.decodeRecord header.length n record⟩ = .ok r ↔
      Admits header record ∧ Yields header record r := by
  simp only [readLine_eq_ok_iff, Csv.decodeRecord_eq_ok_iff]
  constructor
  · rintro ⟨cells, ⟨hwidth, hcells⟩, hrow⟩
    have hlength := hcells.length_eq.symm.trans hwidth
    obtain ⟨hreadable, hdescribes⟩ := (readRow_of_layout hl _ cells hlength r).mp hrow
    exact ⟨⟨hwidth, cells, hcells, hreadable⟩, cells, hcells, hdescribes⟩
  · rintro ⟨⟨hwidth, cells, hcells, hreadable⟩, cells', hcells', hdescribes⟩
    obtain rfl := Csv.spells_unique.forall₂ hcells hcells'
    have hlength := hcells.length_eq.symm.trans hwidth
    exact ⟨cells, ⟨hwidth, hcells⟩,
      (readRow_of_layout hl _ cells hlength r).mpr ⟨hreadable, hdescribes⟩⟩

theorem exists_readLine_iff (hl : layout source header = .ok l) (n : Nat) (record : Csv.Record) :
    (∃ r, readLine l ⟨record.start.line, Csv.decodeRecord header.length n record⟩ = .ok r) ↔
      Admits header record := by
  constructor
  · rintro ⟨r, hr⟩
    exact ((readLine_of_layout hl n record r).mp hr).1
  · intro hadmits
    obtain ⟨hwidth, cells, hcells, hreadable⟩ := hadmits
    have hlength := hcells.length_eq.symm.trans hwidth
    obtain ⟨r, hrow⟩ := (exists_readRow_iff hl record.start.line cells hlength).mpr hreadable
    have hdescribes := ((readRow_of_layout hl _ cells hlength r).mp hrow).2
    exact ⟨r, (readLine_of_layout hl n record r).mpr
      ⟨⟨hwidth, cells, hcells, hreadable⟩, cells, hcells, hdescribes⟩⟩

theorem readLines_of_layout (hl : layout source header = .ok l) (n : Nat)
    (records : List Csv.Record) (rows : List Row) :
    readLines l (Csv.decodeRecords header.length n records) = .ok rows ↔
      List.Forall₂ (fun record r => Admits header record ∧ Yields header record r) records rows := by
  induction records generalizing n rows with
  | nil => simp [Csv.decodeRecords, readLines, eq_comm]
  | cons record records ih =>
    simp only [Csv.decodeRecords, readLines, bind_eq_ok_iff, pure_eq_ok_iff,
      readLine_of_layout hl n record, ih (n + 1)]
    constructor
    · rintro ⟨r, hr, rs, hrs, rfl⟩
      exact .cons hr hrs
    · rintro (_ | @⟨_, r, _, rs, hr, hrs⟩)
      exact ⟨r, hr, rs, hrs, rfl⟩

end Layout

theorem load_eq_ok_iff_split (source : Path) (file : Bytes) (t : Table) :
    load source file = .ok t ↔ ∃ h records header l, Csv.split file = h :: records ∧
      List.Forall₂ Csv.Spells h.fields header ∧ layout source header = .ok l ∧
      readLines l (Csv.decodeRecords header.length 1 records) = .ok t.rows ∧
      t.source = source ∧ t.columns = metricNames header := by
  rw [load_eq_ok_iff]
  unfold Csv.decode
  constructor
  · rintro ⟨header, lines, l, hdecode, hl, hrows, hsource, hcolumns⟩
    rw [layout_names source header l hl] at hcolumns
    cases hsplit : Csv.split file with
    | nil =>
      rw [hsplit] at hdecode
      obtain rfl : [] = header := Except.ok.inj (Prod.mk.inj hdecode).1
      have hkeys := (exists_layout_iff source []).mp ⟨l, hl⟩
      exact absurd (hkeys Column.treeType (by decide)) List.not_mem_nil
    | cons h records =>
      rw [hsplit] at hdecode
      obtain ⟨hheader, rfl⟩ := Prod.mk.inj hdecode
      have hspelled := (Csv.decodeFields_eq_ok_iff _ _ _ _ _).mp hheader
      rw [hspelled.length_eq] at hrows
      exact ⟨h, records, header, l, rfl, hspelled, hl, hrows, hsource, hcolumns⟩
  · rintro ⟨h, records, header, l, hsplit, hspelled, hl, hrows, hsource, hcolumns⟩
    rw [← layout_names source header l hl] at hcolumns
    rw [← hspelled.length_eq] at hrows
    have hheader := (Csv.decodeFields_eq_ok_iff 0 h.start 0 h.fields header).mpr hspelled
    rw [hsplit]
    exact ⟨header, _, l, Prod.ext hheader rfl, hl, hrows, hsource, hcolumns⟩

theorem load_eq_ok_iff_transcribes (source : Path) (file : Bytes) (t : Table) :
    load source file = .ok t ↔ ∃ first records header, Csv.split file = first :: records ∧
      Accepted first records header ∧ t.source = source ∧ t.Transcribes header records := by
  rw [load_eq_ok_iff_split]
  constructor
  · rintro ⟨first, records, header, l, hsplit, hspelled, hl, hrows, hsource, hcolumns⟩
    rw [readLines_of_layout hl, List.forall₂_and_left] at hrows
    have hkeys := (exists_layout_iff source header).mp ⟨l, hl⟩
    exact ⟨first, records, header, hsplit, ⟨hspelled, hkeys, hrows.1⟩, hsource, ⟨hcolumns, hrows.2⟩⟩
  · rintro ⟨first, records, header, hsplit, haccepted, hsource, htranscribes⟩
    obtain ⟨l, hl⟩ := (exists_layout_iff source header).mpr haccepted.keys
    refine ⟨first, records, header, l, hsplit, haccepted.spelled, hl, ?_, hsource,
      htranscribes.columns⟩
    rw [readLines_of_layout hl, List.forall₂_and_left]
    exact ⟨haccepted.records, htranscribes.rows⟩

theorem exists_load_iff (source : Path) (file : Bytes) :
    (∃ t, load source file = .ok t) ↔
      ∃ first records header, Csv.split file = first :: records ∧ Accepted first records header := by
  constructor
  · rintro ⟨t, ht⟩
    obtain ⟨first, records, header, hsplit, haccepted, -⟩ :=
      (load_eq_ok_iff_transcribes source file t).mp ht
    exact ⟨first, records, header, hsplit, haccepted⟩
  · rintro ⟨first, records, header, hsplit, haccepted⟩
    obtain ⟨l, hl⟩ := (exists_layout_iff source header).mpr haccepted.keys
    have hrecords : ∀ r ∈ records, ∃ row, Yields header r row := by
      intro r hr
      obtain ⟨row, hrow⟩ := (exists_readLine_iff hl 0 r).mpr (haccepted.records r hr)
      exact ⟨row, ((readLine_of_layout hl 0 r row).mp hrow).2⟩
    obtain ⟨rows, hrows⟩ := (exists_forall₂_iff _ records).mpr hrecords
    exact ⟨⟨source, metricNames header, rows⟩, (load_eq_ok_iff_transcribes source file _).mpr
      ⟨first, records, header, hsplit, haccepted, rfl, ⟨rfl, hrows⟩⟩⟩

/-- A file loads when its header names the keys and each of its records can be read under these
names. The table then holds what the texts spell, and nothing else. -/
theorem load_accepts (source : Path) (file : Bytes) :
    ((∃ t, load source file = .ok t) ↔
      ∃ first records header, Csv.split file = first :: records ∧ Accepted first records header) ∧
    ∀ t, load source file = .ok t → t.source = source ∧ t.Rectangular ∧
      ∃ first records header, Csv.split file = first :: records ∧ Accepted first records header ∧
        t.Transcribes header records := by
  refine ⟨exists_load_iff source file, ?_⟩
  intro t ht
  obtain ⟨first, records, header, hsplit, haccepted, hsource, htranscribes⟩ :=
    (load_eq_ok_iff_transcribes source file t).mp ht
  exact ⟨hsource, load_rectangular source file t ht, first, records, header, hsplit, haccepted,
    htranscribes⟩

end Table

end BenchReport
