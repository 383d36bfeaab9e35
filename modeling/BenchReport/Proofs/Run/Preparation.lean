import BenchReport.Proofs.Disk
import BenchReport.Proofs.Table.Reachable
import BenchReport.Proofs.Text.Blank
import BenchReport.Run

namespace BenchReport

namespace Settings

def BlankBaseline (s : Settings) : Prop := ∀ c ∈ s.baseline.toList, Text.isBlank c

def Sound (s : Settings) : Prop := s.trialCount ≠ some 0 ∧ ¬ s.BlankBaseline

theorem validate_eq_ok_iff (s : Settings) : s.validate = .ok () ↔ s.Sound := by
  have hblank : (Text.trim s.baseline).isEmpty ↔ s.BlankBaseline := Text.trim_isEmpty_iff _
  unfold validate Sound
  split_ifs with htrials h
  · simp [htrials]
  · simp [hblank.mp h]
  · simpa [htrials] using mt hblank.mpr h

theorem validate_eq_error_iff (s : Settings) (f : SettingsFault) :
    s.validate = .error f ↔ s.trialCount = some 0 ∧ f = .noTrials ∨
      s.trialCount ≠ some 0 ∧ s.BlankBaseline ∧ f = .emptyBaseline := by
  have hblank : (Text.trim s.baseline).isEmpty ↔ s.BlankBaseline := Text.trim_isEmpty_iff _
  unfold validate
  split_ifs with htrials h
  · simp [htrials, eq_comm]
  · simp [htrials, hblank.mp h, eq_comm]
  · simp [htrials, mt hblank.mpr h]

end Settings

namespace RunFault

def IsEarly : RunFault → Prop
  | settings _ | data _ => True
  | outputDirectory .. | drawing _ | summary .. => False

end RunFault

namespace Run

def Supplies (v : View) (e : ManifestEntry) : Prop := e.required → v.table.hasColumn e.metric

/-- The fault of the first stage that fails. Each rule says that the earlier stages succeed. -/
inductive FirstFault (s : Settings) (m : Manifest) (d : Disk) : RunFault → Prop
  | noTrials : s.trialCount = some 0 → FirstFault s m d (.settings .noTrials)
  | blankBaseline : s.trialCount ≠ some 0 → s.BlankBaseline →
    FirstFault s m d (.settings .emptyBaseline)
  | missingInput : s.Sound → d.NotFound s.input → FirstFault s m d (.data (.missingInput s.input))
  | unopened (e : DiskError) : s.Sound → d.entryAt s.input = .error e → ¬ d.NotFound s.input →
    FirstFault s m d (.data (.disk e))
  | directory : s.Sound → d.entryAt s.input = .ok .directory →
    FirstFault s m d (.data (.csv (.unreadable .isDirectory)))
  | unloaded (file : Bytes) (f : DataFault) : s.Sound → d.entryAt s.input = .ok (.file file) →
    Table.load s.input file = .error f → FirstFault s m d (.data f)
  | missingColumn (file : Bytes) (t : Table) (before after : Manifest) (e : ManifestEntry) :
    s.Sound → d.entryAt s.input = .ok (.file file) → Table.load s.input file = .ok t →
    m = before ++ e :: after → (∀ e' ∈ before, Supplies (View.derive t s.deriveOptions) e') →
    ¬ Supplies (View.derive t s.deriveOptions) e →
    FirstFault s m d (.data (.missingColumn e.metric s.input))

theorem loadInput_eq_error_iff (path : Path) (d : Disk) (f : DataFault) :
    loadInput path d = .error f ↔ d.NotFound path ∧ f = .missingInput path ∨
      (∃ e, d.entryAt path = .error e ∧ ¬ d.NotFound path ∧ f = .disk e) ∨
      d.entryAt path = .ok .directory ∧ f = .csv (.unreadable .isDirectory) ∨
      ∃ file, d.entryAt path = .ok (.file file) ∧ Table.load path file = .error f := by
  rw [loadInput, bind_eq_error_iff, ← Disk.entryAt_eq_notFound_iff, readInput]
  cases d.entryAt path with
  | error e => cases e <;> simp [eq_comm]
  | ok entry => cases entry <;> simp [eq_comm]

theorem loadInput_eq_ok_iff (path : Path) (d : Disk) (t : Table) :
    loadInput path d = .ok t ↔
      ∃ file, d.entryAt path = .ok (.file file) ∧ Table.load path file = .ok t := by
  rw [loadInput, bind_eq_ok_iff, readInput]
  cases d.entryAt path with
  | error e => cases e <;> simp
  | ok entry => cases entry <;> simp

theorem plan_eq_error_iff (m : Manifest) (v : View) (f : DataFault) :
    m.plan v = .error f ↔ ∃ before e after, m = before ++ e :: after ∧
      (∀ e' ∈ before, Supplies v e') ∧ ¬ Supplies v e ∧
      f = .missingColumn e.metric v.table.source := by
  have hkeep (e : ManifestEntry) :
      Supplies v e ↔ (!(e.required && !v.table.hasColumn e.metric)) = true := by
    simp [Supplies, imp_iff_not_or]
  have hfirst (e : ManifestEntry) : m.firstMissing? v.table = some e ↔
      ∃ before after, m = before ++ e :: after ∧ (∀ e' ∈ before, Supplies v e') ∧
        ¬ Supplies v e := by
    simp only [Manifest.firstMissing?, List.find?_eq_some_iff_append, hkeep]
    constructor
    · rintro ⟨he, before, after, hm, hbefore⟩
      exact ⟨before, after, hm, hbefore, by simp [he]⟩
    · rintro ⟨before, after, hm, hbefore, he⟩
      exact ⟨by simpa using he, before, after, hm, hbefore⟩
  unfold Manifest.plan
  cases hmissing : m.firstMissing? v.table with
  | none =>
    simp only [reduceCtorEq, false_iff]
    rintro ⟨before, e, after, hm, hbefore, he, -⟩
    have hsome := (hfirst e).mpr ⟨before, after, hm, hbefore, he⟩
    rw [hmissing] at hsome
    cases hsome
  | some e =>
    constructor
    · intro h
      obtain ⟨before, after, hm, hbefore, he⟩ := (hfirst e).mp hmissing
      cases h
      exact ⟨before, e, after, hm, hbefore, he, rfl⟩
    · rintro ⟨before, e', after, hm, hbefore, he, rfl⟩
      have hsome := (hfirst e').mpr ⟨before, after, hm, hbefore, he⟩
      rw [hmissing] at hsome
      cases hsome
      rfl

theorem prepare_eq_match (s : Settings) (d : Disk) :
    prepare s d =
      match s.validate with
      | .error f => .error (.settings f)
      | .ok () =>
        match loadInput s.input d with
        | .error f => .error (.data f)
        | .ok t => .ok (View.derive t s.deriveOptions) := by
  unfold prepare prepareBy
  cases s.validate with
  | error f => rfl
  | ok u => cases loadInput s.input d <;> rfl

theorem prepare_eq_ok_iff (s : Settings) (d : Disk) (v : View) :
    prepare s d = .ok v ↔ s.Sound ∧ ∃ t, loadInput s.input d = .ok t ∧
      v = View.derive t s.deriveOptions := by
  rw [← Settings.validate_eq_ok_iff, prepare_eq_match]
  cases s.validate with
  | error f => simp
  | ok u => cases loadInput s.input d <;> simp [eq_comm]

theorem prepare_eq_error_iff (s : Settings) (d : Disk) (f : RunFault) :
    prepare s d = .error f ↔ (∃ g, s.validate = .error g ∧ f = .settings g) ∨
      s.Sound ∧ ∃ g, loadInput s.input d = .error g ∧ f = .data g := by
  rw [← Settings.validate_eq_ok_iff, prepare_eq_match]
  cases s.validate with
  | error f => simp [eq_comm]
  | ok u => cases loadInput s.input d <;> simp [eq_comm]

theorem derived_source (path : Path) (file : Bytes) (t : Table) (o : DeriveOptions)
    (h : Table.load path file = .ok t) : (View.derive t o).table.source = path := by
  obtain ⟨header, lines, l, -, -, -, hsource, -⟩ := (Table.load_eq_ok_iff path file t).mp h
  rw [View.derive_table]
  exact hsource

theorem firstFault_iff (s : Settings) (m : Manifest) (d : Disk) (f : RunFault) :
    FirstFault s m d f ↔ prepare s d = .error f ∨
      ∃ v g, prepare s d = .ok v ∧ m.plan v = .error g ∧ f = .data g := by
  simp only [prepare_eq_error_iff, prepare_eq_ok_iff, Settings.validate_eq_error_iff,
    loadInput_eq_error_iff, loadInput_eq_ok_iff]
  constructor
  · intro h
    cases h with
    | noTrials ht => exact .inl (.inl ⟨_, .inl ⟨ht, rfl⟩, rfl⟩)
    | blankBaseline ht hb => exact .inl (.inl ⟨_, .inr ⟨ht, hb, rfl⟩, rfl⟩)
    | missingInput hs ha => exact .inl (.inr ⟨hs, _, .inl ⟨ha, rfl⟩, rfl⟩)
    | unopened e hs he ha => exact .inl (.inr ⟨hs, _, .inr (.inl ⟨e, he, ha, rfl⟩), rfl⟩)
    | directory hs hd => exact .inl (.inr ⟨hs, _, .inr (.inr (.inl ⟨hd, rfl⟩)), rfl⟩)
    | unloaded file g hs hf hl => exact .inl (.inr ⟨hs, g, .inr (.inr (.inr ⟨file, hf, hl⟩)), rfl⟩)
    | missingColumn file t before after e hs hf hl hm hbefore he =>
      refine .inr ⟨_, _, ⟨hs, t, ⟨file, hf, hl⟩, rfl⟩, ?_, rfl⟩
      have hsource := derived_source s.input file t s.deriveOptions hl
      exact (plan_eq_error_iff m _ _).mpr ⟨before, e, after, hm, hbefore, he, by rw [hsource]⟩
  · rintro ((⟨g, ⟨ht, rfl⟩ | ⟨ht, hb, rfl⟩, rfl⟩ | ⟨hs, g, hg, rfl⟩) |
      ⟨v, g, ⟨hs, t, ⟨file, hf, hl⟩, rfl⟩, hplan, rfl⟩)
    · exact .noTrials ht
    · exact .blankBaseline ht hb
    · rcases hg with ⟨ha, rfl⟩ | ⟨e, he, ha, rfl⟩ | ⟨hd, rfl⟩ | ⟨file, hf, hl⟩
      · exact .missingInput hs ha
      · exact .unopened e hs he ha
      · exact .directory hs hd
      · exact .unloaded file g hs hf hl
    · obtain ⟨before, e, after, hm, hbefore, he, rfl⟩ := (plan_eq_error_iff m _ _).mp hplan
      rw [derived_source s.input file t s.deriveOptions hl]
      exact .missingColumn file t before after e hs hf hl hm hbefore he

theorem run_of_firstFault (artist : Artist) (s : Settings) (m : Manifest) (d : Disk) (f : RunFault)
    (h : FirstFault s m d f) : run artist s m d = ⟨d, [], .error f, prepareEvents s d⟩ := by
  rcases (firstFault_iff s m d f).mp h with hprepare | ⟨v, g, hprepare, hplan, rfl⟩
  · simp only [run, hprepare]
  · simp only [run, hprepare, hplan]

theorem exists_firstFault_iff (s : Settings) (m : Manifest) (d : Disk) :
    (∃ f, FirstFault s m d f) ↔ ¬ ∃ v plan, prepare s d = .ok v ∧ m.plan v = .ok plan := by
  simp only [firstFault_iff]
  cases prepare s d with
  | error f => simp
  | ok v => cases hplan : m.plan v <;> simp [hplan]

end Run

end BenchReport
