import BenchReport.Proofs.Run.Preparation
import BenchReport.Proofs.Table.Acceptance
/-!
Why a file does not load: the first of its faults, where a record is read only after all records
above it, and a cell only after the cells that are read before it.
-/

namespace BenchReport

namespace Table

inductive CellFault (line : Nat) (fields : List (String × String)) : DataFault → Prop
  | sortedness (text : String) (f : DataFault) : fields.lookup Column.sortedness = some text →
    KeyFault line Column.sortedness text f → CellFault line fields f
  | readRatio (s text : String) (f : DataFault) : fields.lookup Column.sortedness = some s →
    IsKeyText s → fields.lookup Column.readRatio = some text →
    KeyFault line Column.readRatio text f → CellFault line fields f
  | metric (s q : String) (before : List (String × String)) (name text : String)
    (after : List (String × String)) : fields.lookup Column.sortedness = some s → IsKeyText s →
    fields.lookup Column.readRatio = some q → IsKeyText q →
    metricFields fields = before ++ (name, text) :: after → (∀ m ∈ before, IsMetricText m.2) →
    ¬ IsMetricText text → CellFault line fields (.invalidValue line name text)

inductive RecordFault (header : List String) (n : Nat) (r : Csv.Record) : DataFault → Prop
  | record (fault : Csv.Fault) : Csv.RecordFault header.length n r fault →
    RecordFault header n r (.csv fault)
  | cell (cells : List String) (f : DataFault) : r.fields.length = header.length →
    List.Forall₂ Csv.Spells r.fields cells → CellFault r.start.line (header.zip cells) f →
    RecordFault header n r f

inductive FaultAt (source : Path) : List Csv.Record → Nat → DataFault → Prop
  | noRecord : FaultAt source [] 0 (.missingColumn Column.treeType source)
  | encoding (h : Csv.Record) (records : List Csv.Record) (before : List Bytes) (field : Bytes)
    (after : List Bytes) (valid : Nat) : h.fields = before ++ field :: after →
    (∀ f ∈ before, ∃ text, Csv.Spells f text) → Text.ofBytes field = .error valid →
    FaultAt source (h :: records) 0 (.csv (.encoding 0 h.start before.length valid))
  | missingColumn (h : Csv.Record) (records : List Csv.Record) (header before : List String)
    (key : String) (after : List String) : List.Forall₂ Csv.Spells h.fields header →
    Column.keys = before ++ key :: after → (∀ k ∈ before, k ∈ header) → key ∉ header →
    FaultAt source (h :: records) 0 (.missingColumn key source)
  | record (h : Csv.Record) (before : List Csv.Record) (r : Csv.Record) (after : List Csv.Record)
    (header : List String) (f : DataFault) : Accepted h before header →
    RecordFault header (before.length + 1) r f →
    FaultAt source (h :: (before ++ r :: after)) (before.length + 1) f

theorem readMetrics_eq_error_iff (line : Nat) (cells : List String) (metrics : List (Nat × String))
    (f : DataFault) :
    readMetrics line cells metrics = .error f ↔ ∃ before m after, metrics = before ++ m :: after ∧
      (∀ m' ∈ before, IsMetricText (cell cells m'.1)) ∧ ¬ IsMetricText (cell cells m.1) ∧
        f = .invalidValue line m.2 (cell cells m.1) := by
  induction metrics with
  | nil => simp [readMetrics]
  | cons m metrics ih =>
    have hstep : readMetrics line cells (m :: metrics) = .error f ↔
        (¬ IsMetricText (cell cells m.1) ∧ f = .invalidValue line m.2 (cell cells m.1)) ∨
          IsMetricText (cell cells m.1) ∧ readMetrics line cells metrics = .error f := by
      simp only [readMetrics, bind_eq_error_iff, readCell_eq_error_iff, pure, Except.pure, reduceCtorEq,
        and_false, exists_false, or_false, exists_and_right, exists_readCell_iff]
    rw [hstep, ih]
    exact (exists_first_cons_iff (fun m : Nat × String => IsMetricText (cell cells m.1))
      (fun _ m => ¬ IsMetricText (cell cells m.1) ∧ f = .invalidValue line m.2 (cell cells m.1))
      m metrics).symm

section Layout

variable {source : Path} {header : List String} {l : Layout}

theorem readMetrics_error_of_layout (hl : layout source header = .ok l) (line : Nat)
    (cells : List String) (hlength : cells.length = header.length) (f : DataFault) :
    readMetrics line cells l.metrics = .error f ↔ ∃ before name text after,
      metricFields (header.zip cells) = before ++ (name, text) :: after ∧
      (∀ m ∈ before, IsMetricText m.2) ∧ ¬ IsMetricText text ∧ f = .invalidValue line name text := by
  obtain ⟨-, -, -, hmetrics⟩ := fields_of_layout source header cells l hl hlength
  rw [readMetrics_eq_error_iff, hmetrics]
  constructor
  · rintro ⟨before, m, after, hsplit, hbefore, hm, hf⟩
    refine ⟨before.map fun m => (m.2, cell cells m.1), m.2, cell cells m.1,
      after.map fun m => (m.2, cell cells m.1), ?_, ?_, hm, hf⟩
    · rw [hsplit, List.map_append, List.map_cons]
    · exact List.forall_mem_map.mpr hbefore
  · rintro ⟨before, name, text, after, hsplit, hbefore, hm, rfl⟩
    obtain ⟨ms, rest, hms, rfl, hrest⟩ := List.map_eq_append_iff.mp hsplit
    obtain ⟨m, ms', rfl, hname, -⟩ := List.map_eq_cons_iff.mp hrest
    obtain ⟨rfl, rfl⟩ := Prod.mk.inj hname
    refine ⟨ms, m, ms', hms, ?_, hm, rfl⟩
    intro m' hm'
    exact hbefore _ (List.mem_map_of_mem hm')

theorem readRow_error_of_layout (hl : layout source header = .ok l) (line : Nat)
    (cells : List String) (hlength : cells.length = header.length) (f : DataFault) :
    readRow l line cells = .error f ↔ CellFault line (header.zip cells) f := by
  obtain ⟨-, hsortedness, hratio, -⟩ := fields_of_layout source header cells l hl hlength
  simp only [readRow, bind_eq_error_iff, readFraction_eq_error_iff, pure, Except.pure, reduceCtorEq,
    and_false, exists_false, or_false, exists_and_right, exists_readFraction_iff]
  rw [readMetrics_error_of_layout hl line cells hlength]
  constructor
  · rintro (hs | ⟨hs, hq | ⟨hq, before, name, text, after, hsplit, hbefore, hm, rfl⟩⟩)
    · exact .sortedness _ f hsortedness hs
    · exact .readRatio _ _ f hsortedness hs hratio hq
    · exact .metric _ _ before name text after hsortedness hs hratio hq hsplit hbefore hm
  · intro h
    cases h with
    | sortedness text _ hs hfault =>
      obtain rfl := Option.some.inj (hsortedness.symm.trans hs)
      exact .inl hfault
    | readRatio s text _ hs hstext hq hfault =>
      obtain rfl := Option.some.inj (hsortedness.symm.trans hs)
      obtain rfl := Option.some.inj (hratio.symm.trans hq)
      exact .inr ⟨hstext, .inl hfault⟩
    | metric s q before name text after hs hstext hq hqtext hsplit hbefore hm =>
      obtain rfl := Option.some.inj (hsortedness.symm.trans hs)
      obtain rfl := Option.some.inj (hratio.symm.trans hq)
      exact .inr ⟨hstext, .inr ⟨hqtext, before, name, text, after, hsplit, hbefore, hm, rfl⟩⟩

theorem readLine_error_of_layout (hl : layout source header = .ok l) (n : Nat) (r : Csv.Record)
    (f : DataFault) :
    readLine l ⟨r.start.line, Csv.decodeRecord header.length n r⟩ = .error f ↔
      RecordFault header n r f := by
  constructor
  · intro h
    cases hcells : Csv.decodeRecord header.length n r with
    | error fault =>
      rw [hcells] at h
      obtain rfl : .csv fault = f := Except.error.inj h
      exact .record fault ((Csv.decodeRecord_eq_error_iff _ _ r fault).mp hcells)
    | ok cells =>
      rw [hcells] at h
      obtain ⟨hwidth, hspelled⟩ := (Csv.decodeRecord_eq_ok_iff _ _ r cells).mp hcells
      have hlength := hspelled.length_eq.symm.trans hwidth
      exact .cell cells f hwidth hspelled ((readRow_error_of_layout hl _ cells hlength f).mp h)
  · intro h
    cases h with
    | record fault hfault =>
      simp only [readLine, (Csv.decodeRecord_eq_error_iff _ _ r fault).mpr hfault]
    | cell cells _ hwidth hspelled hfault =>
      have hlength := hspelled.length_eq.symm.trans hwidth
      simp only [readLine, (Csv.decodeRecord_eq_ok_iff _ n r cells).mpr ⟨hwidth, hspelled⟩]
      exact (readRow_error_of_layout hl _ cells hlength f).mpr hfault

theorem readLines_error_of_layout (hl : layout source header = .ok l) (n : Nat)
    (records : List Csv.Record) (f : DataFault) :
    readLines l (Csv.decodeRecords header.length n records) = .error f ↔
      ∃ before r after, records = before ++ r :: after ∧ (∀ q ∈ before, Admits header q) ∧
        RecordFault header (n + before.length) r f := by
  induction records generalizing n with
  | nil => simp [Csv.decodeRecords, readLines]
  | cons r records ih =>
    have hstep : readLines l (Csv.decodeRecords header.length n (r :: records)) = .error f ↔
        RecordFault header n r f ∨ Admits header r ∧
          readLines l (Csv.decodeRecords header.length (n + 1) records) = .error f := by
      simp only [Csv.decodeRecords, readLines, bind_eq_error_iff, readLine_error_of_layout hl, pure,
        Except.pure, reduceCtorEq, and_false, exists_false, or_false, exists_and_right,
        exists_readLine_iff hl]
    rw [hstep, ih (n + 1)]
    simp only [Nat.add_assoc, Nat.add_comm 1]
    exact (exists_first_cons_iff (Admits header) (fun i r => RecordFault header (n + i) r f) r
      records).symm

end Layout

theorem load_cons (source : Path) (file : Bytes) (h : Csv.Record) (records : List Csv.Record)
    (header : List String) (hsplit : Csv.split file = h :: records)
    (hspelled : List.Forall₂ Csv.Spells h.fields header) :
    load source file = ofLines source header (Csv.decodeRecords header.length 1 records) := by
  have hheader := (Csv.decodeFields_eq_ok_iff 0 h.start 0 h.fields header).mpr hspelled
  rw [← hspelled.length_eq]
  simp only [load, Csv.decode, hsplit, hheader]

theorem ofLines_eq_error_iff (source : Path) (header : List String) (lines : List Csv.Line)
    (f : DataFault) :
    ofLines source header lines = .error f ↔ layout source header = .error f ∨
      ∃ l, layout source header = .ok l ∧ readLines l lines = .error f := by
  simp only [ofLines, bind_eq_error_iff, pure, Except.pure, reduceCtorEq, and_false, exists_false,
    or_false]

theorem load_of_faultAt (source : Path) (file : Bytes) (records : List Csv.Record) (n : Nat)
    (f : DataFault) (hsplit : Csv.split file = records) (h : FaultAt source records n f) :
    load source file = .error f := by
  cases h with
  | noRecord =>
    simp only [load, Csv.decode, hsplit]
    rfl
  | encoding h records before field after valid hfields hbefore hfield =>
    have hheader := (Csv.decodeFields_eq_error_iff 0 h.start 0 h.fields _).mpr
      ⟨before, field, after, hfields, hbefore, valid, hfield, rfl⟩
    simp only [load, Csv.decode, hsplit, hheader, Nat.zero_add]
  | missingColumn h records header before key after hspelled hkeys hbefore hkey =>
    rw [load_cons source file h records header hsplit hspelled, ofLines_eq_error_iff]
    exact .inl ((layout_eq_error_iff source header _).mpr
      ⟨before, key, after, hkeys, hbefore, hkey, rfl⟩)
  | record h before r after header f haccepted hfault =>
    obtain ⟨l, hl⟩ := (exists_layout_iff source header).mpr haccepted.keys
    rw [load_cons source file h _ header hsplit haccepted.spelled, ofLines_eq_error_iff]
    rw [Nat.add_comm] at hfault
    exact .inr ⟨l, hl, (readLines_error_of_layout hl 1 _ f).mpr
      ⟨before, r, after, rfl, haccepted.records, hfault⟩⟩

theorem exists_faultAt (source : Path) (file : Bytes) (f : DataFault)
    (h : load source file = .error f) : ∃ n, FaultAt source (Csv.split file) n f := by
  cases hsplit : Csv.split file with
  | nil =>
    have hempty := load_of_faultAt source file [] 0 _ hsplit .noRecord
    obtain rfl := Except.error.inj (hempty.symm.trans h)
    exact ⟨0, .noRecord⟩
  | cons head records =>
    cases hheader : Csv.decodeFields 0 head.start 0 head.fields with
    | error fault =>
      obtain ⟨before, field, after, hfields, hbefore, valid, hfield, rfl⟩ :=
        (Csv.decodeFields_eq_error_iff 0 head.start 0 head.fields fault).mp hheader
      have hfault : FaultAt source (head :: records) 0 _ :=
        .encoding head records before field after valid hfields hbefore hfield
      have hload := load_of_faultAt source file _ 0 _ hsplit hfault
      obtain rfl := Except.error.inj (hload.symm.trans h)
      exact ⟨0, hfault⟩
    | ok header =>
      have hspelled := (Csv.decodeFields_eq_ok_iff 0 head.start 0 head.fields header).mp hheader
      rw [load_cons source file head records header hsplit hspelled, ofLines_eq_error_iff] at h
      rcases h with h | ⟨l, hl, h⟩
      · obtain ⟨before, key, after, hkeys, hbefore, hkey, rfl⟩ :=
          (layout_eq_error_iff source header f).mp h
        exact ⟨0, .missingColumn head records header before key after hspelled hkeys hbefore hkey⟩
      · obtain ⟨before, r, after, rfl, hbefore, hr⟩ := (readLines_error_of_layout hl 1 records f).mp h
        have hkeys := (exists_layout_iff source header).mp ⟨l, hl⟩
        rw [Nat.add_comm] at hr
        exact ⟨_, .record head before r after header f ⟨hspelled, hkeys, hbefore⟩ hr⟩

theorem FaultAt.of_take {source : Path} {records records' : List Csv.Record} {n : Nat}
    {f : DataFault} (h : FaultAt source records n f)
    (htake : records'.take (n + 1) = records.take (n + 1)) : FaultAt source records' n f := by
  rw [← List.take_append_drop (n + 1) records', htake]
  cases h with
  | noRecord =>
    obtain rfl : records' = [] := by simpa using htake
    exact .noRecord
  | encoding h records before field after valid hfields hbefore hfield =>
    exact .encoding h _ before field after valid hfields hbefore hfield
  | missingColumn h records header before key after hspelled hkeys hbefore hkey =>
    exact .missingColumn h _ header before key after hspelled hkeys hbefore hkey
  | record h before r after header f haccepted hfault =>
    have hkept : (h :: (before ++ r :: after)).take (before.length + 1 + 1) = h :: (before ++ [r]) := by
      rw [List.take_succ_cons, List.take_append, List.take_of_length_le (by omega),
        Nat.add_sub_cancel_left]
      rfl
    rw [hkept, List.cons_append, List.append_assoc]
    exact .record h before r _ header f haccepted hfault

/-- Loading reports the first fault of a file, and nothing below the record of this fault has a say
in it. An input that cannot be read at all has no records. -/
theorem load_reports_first_fault (source : Path) (file : Bytes) :
    (∀ d : Disk, d.entryAt source = .ok .directory →
      Run.loadInput source d = .error (.csv (.unreadable .isDirectory))) ∧
    (∀ f, load source file = .error f ↔ ∃ n, FaultAt source (Csv.split file) n f) ∧
    ∀ n f, FaultAt source (Csv.split file) n f → ∀ file' : Bytes,
      (Csv.split file').take (n + 1) = (Csv.split file).take (n + 1) →
        load source file' = .error f := by
  refine ⟨?_, ?_, ?_⟩
  · intro d hd
    exact (Run.loadInput_eq_error_iff source d _).mpr (.inr (.inr (.inl ⟨hd, rfl⟩)))
  · intro f
    constructor
    · exact exists_faultAt source file f
    · rintro ⟨n, hn⟩
      exact load_of_faultAt source file _ n f rfl hn
  · intro n f hfault file' htake
    exact load_of_faultAt source file' _ n f rfl (hfault.of_take htake)

end Table

end BenchReport
