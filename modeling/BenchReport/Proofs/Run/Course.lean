import BenchReport.Command
import BenchReport.Proofs.Run.Drawing
import BenchReport.Proofs.Run.Preparation
/-!
The course of a run once its charts are planned. It makes the output directory, draws the charts that
are not empty and writes the summary if one is asked for, so that the files it writes are always the
beginning of one list, and how far it came settles what it announced.
-/

namespace BenchReport

def Outcome.paths (o : Outcome) : List Path := o.charts.flatMap (·.files) ++ o.summaryFiles

namespace Run

open Disk

def summaryFiles (s : Settings) : List Path :=
  if s.summary then [summaryPath s .csv, summaryPath s .json] else []

def summaries (s : Settings) (v : View) : List (Path × Bytes) :=
  if s.summary then
    [(summaryPath s .csv, Text.toBytes (Summary.ofView v).toCsv),
      (summaryPath s .json, Text.toBytes (Summary.ofView v).toJson)]
  else []

theorem summaries_paths (s : Settings) (v : View) :
    (summaries s v).map (·.1) = summaryFiles s := by
  unfold summaries summaryFiles
  split_ifs <;> rfl

theorem writeSummary_written (s : Settings) (v : View) (d d' : Disk)
    (r : Except RunFault (List Path)) (hs : s.summary) (h : writeSummary s v d = (d', r)) :
    ∃ files, files <+: summaries s v ∧ Written d files d' ∧
      ((∃ format path e, r = .error (.summary format path e)) ∨
        files = summaries s v ∧ r = .ok (summaryFiles s)) := by
  simp only [summaries, summaryFiles, hs, if_true]
  unfold writeSummary at h
  dsimp only at h
  cases hcsv : d.write (summaryPath s .csv) (Text.toBytes (Summary.ofView v).toCsv) with
  | error e =>
    rw [hcsv] at h
    cases h
    exact ⟨[], List.nil_prefix, .nil d, .inl ⟨_, _, e, rfl⟩⟩
  | ok d₁ =>
    rw [hcsv] at h
    dsimp only at h
    cases hjson : d₁.write (summaryPath s .json) (Text.toBytes (Summary.ofView v).toJson) with
    | error e =>
      rw [hjson] at h
      cases h
      exact ⟨_, List.prefix_append [_] _, .cons hcsv (.nil d'), .inl ⟨_, _, e, rfl⟩⟩
    | ok d₂ =>
      rw [hjson] at h
      cases h
      exact ⟨_, List.prefix_rfl, .cons hcsv (.cons hjson (.nil d')), .inr ⟨rfl, rfl⟩⟩

theorem summaryPath_end (s : Settings) (format : SummaryFormat) :
    ∃ c, (summaryPath s format).toList.getLast? = some c ∧ c ≠ '/' ∧ c ≠ '.' ∧ c ≠ 'g' := by
  cases format with
  | csv => exact ⟨'v', Path.join_getLast? s.outputDir "summary.csv" 'v' rfl, by decide⟩
  | json => exact ⟨'n', Path.join_getLast? s.outputDir "summary.json" 'n' rfl, by decide⟩

theorem Pictured.content?_summary {d d' : Disk} {files : List (Path × Bytes)}
    (h : Pictured d files d') (s : Settings) (format : SummaryFormat) (p : Place)
    (hp : d'.locate (summaryPath s format) = .ok p) : d'.content? p = d.content? p := by
  apply h.written.content?_eq
  intro f hf hlocate
  -- a picture at the place of a summary would give the place two last characters
  obtain ⟨c, hlast, hslash, hdot, hg⟩ := summaryPath_end s format
  have hsummary := locate_getLast? d' _ p c hlast hslash hdot hp
  have hpicture := locate_getLast? d' _ p 'g' (h.ends f hf) (by decide) (by decide) hlocate
  rw [hsummary] at hpicture
  exact hg (Option.some.inj hpicture)

/-- How the run of a plan ends when `es` are its charts that are not empty: the disk, the charts that
were announced, and the result. -/
inductive Course (artist : Artist) (s : Settings) (v : View) (es : List ManifestEntry) (d : Disk) :
    Disk → List GeneratedChart → Except RunFault Outcome → Prop
  | noDirectory {d₁ : Disk} {e : DiskError} : d.createDirectories s.outputDir = (d₁, .error e) →
    Course artist s v es d d₁ [] (.error (.outputDirectory s.outputDir e))
  | noChart {d₀ d₁ d₂ : Disk} {done after : List ManifestEntry} {e : ManifestEntry}
    {f : DrawFault} : d.createDirectories s.outputDir = (d₀, .ok ()) → es = done ++ e :: after →
    ChartsDrawn artist s v done d₀ d₁ →
    drawChart artist s (Chart.build v e.spec) d₁ = (d₂, .error f) →
    Course artist s v es d d₂ (done.map (announcement s)) (.error (.drawing f))
  | noSummary {d₀ d₁ d₂ : Disk} {format : SummaryFormat} {path : Path} {e : DiskError} :
    d.createDirectories s.outputDir = (d₀, .ok ()) → ChartsDrawn artist s v es d₀ d₁ →
    s.summary → writeSummary s v d₁ = (d₂, .error (.summary format path e)) →
    Course artist s v es d d₂ (es.map (announcement s)) (.error (.summary format path e))
  | finished {d₀ d₁ d₂ : Disk} : d.createDirectories s.outputDir = (d₀, .ok ()) →
    ChartsDrawn artist s v es d₀ d₁ → Written d₁ (summaries s v) d₂ →
    Course artist s v es d d₂ (es.map (announcement s))
      (.ok ⟨es.map (announcement s), summaryFiles s⟩)

theorem render_course (artist : Artist) (s : Settings) (v : View) (plan : List ManifestEntry)
    (d : Disk) :
    Course artist s v (filled v plan) d (render artist s v plan d).disk
      (render artist s v plan d).announced (render artist s v plan d).result := by
  unfold render
  rcases hdirectory : d.createDirectories s.outputDir with ⟨d₀, r⟩
  cases r with
  | error e => exact .noDirectory hdirectory
  | ok u =>
    have hdrawn := drawCharts_drawn artist s v plan d₀
    dsimp only
    generalize drawCharts artist s v plan d₀ = drawn at hdrawn ⊢
    obtain ⟨d₁, charts, fault, events⟩ := drawn
    cases hdrawn with
    | before done hes hdone hfault => exact .noChart hdirectory hes hdone hfault
    | all hall =>
      dsimp only
      by_cases hs : s.summary
      · rw [if_pos hs]
        rcases hsummary : writeSummary s v d₁ with ⟨d₂, r⟩
        obtain ⟨files, -, hwritten, ⟨format, path, e, rfl⟩ | ⟨rfl, rfl⟩⟩ :=
          writeSummary_written s v d₁ d₂ r hs hsummary
        · exact .noSummary hdirectory hall hs hsummary
        · exact .finished hdirectory hall hwritten
      · have hnone : summaryFiles s = [] := if_neg hs
        have hempty : summaries s v = [] := if_neg hs
        have hwritten : Written d₁ (summaries s v) d₁ := hempty ▸ .nil d₁
        rw [if_neg hs, ← hnone]
        exact .finished hdirectory hall hwritten

def ToDraw (s : Settings) (m : Manifest) (d : Disk) (v : View) (es : List ManifestEntry) : Prop :=
  ∃ plan, prepare s d = .ok v ∧ m.plan v = .ok plan ∧ es = filled v plan

theorem run_course (artist : Artist) (s : Settings) (m : Manifest) (d : Disk) :
    (∃ f, FirstFault s m d f) ∨ ∃ v es, ToDraw s m d v es ∧
      Course artist s v es d (run artist s m d).disk (run artist s m d).announced
        (run artist s m d).result := by
  by_cases hfault : ∃ f, FirstFault s m d f
  · exact .inl hfault
  · rw [exists_firstFault_iff, not_not] at hfault
    obtain ⟨v, plan, hprepare, hplan⟩ := hfault
    refine .inr ⟨v, filled v plan, ⟨plan, hprepare, hplan, rfl⟩, ?_⟩
    simp only [run, hprepare, hplan]
    exact render_course artist s v plan d

theorem run_late (artist : Artist) (s : Settings) (m : Manifest) (d : Disk)
    (h : ∀ f, (run artist s m d).result = .error f → ¬ f.IsEarly) :
    ∃ v es, ToDraw s m d v es ∧ Course artist s v es d (run artist s m d).disk
      (run artist s m d).announced (run artist s m d).result := by
  rcases run_course artist s m d with ⟨f, hf⟩ | hcourse
  · refine absurd ?_ (h f (by rw [run_of_firstFault artist s m d f hf]))
    cases hf <;> trivial
  · exact hcourse

namespace Course

variable {artist : Artist} {s : Settings} {v : View} {es : List ManifestEntry} {d d' : Disk}
  {announced : List GeneratedChart}

theorem written_announced {r : Except RunFault Outcome} (h : Course artist s v es d d' announced r) :
    ∃ done files, done <+: es ∧ announced = done.map (announcement s) ∧
      (∀ e ∈ done, Completed artist s (Chart.build v e.spec)) ∧
      allPictures artist s v done <+: files ∧ files <+: allPictures artist s v es ++ summaries s v ∧
      Written (d.createDirectories s.outputDir).1 files d' := by
  cases h with
  | noDirectory hdirectory =>
    rw [hdirectory]
    exact ⟨[], [], List.nil_prefix, rfl, by simp, List.prefix_rfl, List.nil_prefix, .nil _⟩
  | @noChart d₀ d₁ d₂ done after e f hdirectory hes hdone hfault =>
    obtain ⟨files, hfiles, hpictured, -⟩ := drawChart_pictured artist s _ _ _ _ hfault
    rw [hdirectory]
    refine ⟨done, _, ⟨_, hes.symm⟩, rfl, hdone.completed, List.prefix_append _ _, ?_,
      hdone.pictured.written.append hpictured.written⟩
    simp only [hes, allPictures, List.flatMap_append, List.flatMap_cons, List.append_assoc]
    exact (List.prefix_append_right_inj _).mpr (hfiles.trans (List.prefix_append _ _))
  | noSummary hdirectory hall hs hsummary =>
    obtain ⟨files, hfiles, hwritten, -⟩ := writeSummary_written s v _ _ _ hs hsummary
    rw [hdirectory]
    exact ⟨es, _, List.prefix_rfl, rfl, hall.completed, List.prefix_append _ _,
      (List.prefix_append_right_inj _).mpr hfiles, hall.pictured.written.append hwritten⟩
  | finished hdirectory hall hwritten =>
    rw [hdirectory]
    exact ⟨es, _, List.prefix_rfl, rfl, hall.completed, List.prefix_append _ _, List.prefix_rfl,
      hall.pictured.written.append hwritten⟩

theorem written_prefix {r : Except RunFault Outcome}
    (h : Course artist s v es d d' announced r) :
    ∃ files, files <+: allPictures artist s v es ++ summaries s v ∧
      Written (d.createDirectories s.outputDir).1 files d' := by
  obtain ⟨_, files, -, -, -, -, hfiles, hwritten⟩ := h.written_announced
  exact ⟨files, hfiles, hwritten⟩

end Course

structure Accounts (s : Settings) (es : List ManifestEntry) (d : Disk) (r : RunReport)
    (o : Outcome) : Prop where
  charts : o.charts = es.map (announcement s)
  announced : r.announced = o.charts
  summary : o.summaryFiles = summaryFiles s
  there : ∀ path ∈ o.paths, ∃ content, r.disk.entryAt path = .ok (.file content)
  others : ∀ p, (∀ path ∈ o.paths, r.disk.locate path ≠ .ok p) → r.disk.content? p = d.content? p

theorem paths_finished {artist : Artist} {s : Settings} {v : View} {es : List ManifestEntry}
    (h : ∀ e ∈ es, Completed artist s (Chart.build v e.spec)) :
    Outcome.paths ⟨es.map (announcement s), summaryFiles s⟩ =
      (allPictures artist s v es ++ summaries s v).map (·.1) := by
  rw [Outcome.paths, List.map_append, allPictures_paths h, summaries_paths]

theorem Course.accounts {artist : Artist} {s : Settings} {v : View} {es : List ManifestEntry}
    {d : Disk} {r : RunReport} {o : Outcome}
    (h : Course artist s v es d r.disk r.announced (.ok o)) :
    Accounts s es d r o ∧ ∀ e ∈ es, Completed artist s (Chart.build v e.spec) := by
  generalize hdisk : r.disk = d₂ at h
  generalize hannounced : r.announced = announced at h
  cases h with
  | finished hdirectory hall hwritten =>
    have hboth := hall.pictured.written.append hwritten
    refine ⟨⟨rfl, hannounced, rfl, ?_, ?_⟩, hall.completed⟩
    · rw [paths_finished hall.completed, List.forall_mem_map, hdisk]
      exact hboth.exists_file
    · intro p hp
      rw [paths_finished hall.completed, List.forall_mem_map, hdisk] at hp
      rw [hdisk, hboth.content?_eq p hp, createDirectories_ok_content? hdirectory]

def lines (r : RunReport) : List String :=
  r.announced.map (fun g => "Generated plot: " ++ ", ".intercalate g.files) ++
    match r.result with
    | .ok o => o.summaryFiles.map ("Generated summary: " ++ ·)
    | .error _ => []

theorem output_eq_lines (artist : Artist) (c : CommandLine) (d : Disk) :
    (c.run artist d).output = lines (BenchReport.run artist c.settings .standard d) := by
  unfold CommandLine.run Session.ofRun lines
  cases (BenchReport.run artist c.settings .standard d).result with
  | error f => exact (List.append_nil _).symm
  | ok o => rfl

/-- Announcements, outcome, files and printed lines correspond. A run that succeeds accounts for the
charts to draw and for every file that it made or changed, and no drawing has failed. One that fails
at a chart, in drawing or in saving it, has announced those before it and has not touched the places
of the summary, and one that fails at the summary has announced them all. -/
theorem run_corresponds (artist : Artist) (s : Settings) (m : Manifest) (d : Disk) :
    (∀ o, (run artist s m d).result = .ok o →
      ∃ v es, ToDraw s m d v es ∧ Accounts s es d (run artist s m d) o ∧
        ∀ e ∈ es, Completed artist s (Chart.build v e.spec)) ∧
    (∀ f, (run artist s m d).result = .error (.drawing f) →
      ∃ v done e after d₀ d₁, ToDraw s m d v (done ++ e :: after) ∧
        d.createDirectories s.outputDir = (d₀, .ok ()) ∧
        Written d₀ (allPictures artist s v done) d₁ ∧
        (∀ e ∈ done, Completed artist s (Chart.build v e.spec)) ∧
        drawChart artist s (Chart.build v e.spec) d₁ = ((run artist s m d).disk, .error f) ∧
        (run artist s m d).announced = done.map (announcement s) ∧
        ∀ format p, (run artist s m d).disk.locate (summaryPath s format) = .ok p →
          (run artist s m d).disk.content? p = d.content? p) ∧
    (∀ format path e, (run artist s m d).result = .error (.summary format path e) →
      ∃ v es, ToDraw s m d v es ∧ (run artist s m d).announced = es.map (announcement s)) ∧
    ∀ c : CommandLine, (c.run artist d).output = lines (run artist c.settings .standard d) := by
  have hlate := run_late artist s m d
  generalize run artist s m d = r at hlate ⊢
  obtain ⟨d', announced, result, events⟩ := r
  refine ⟨?_, ?_, ?_, fun c => output_eq_lines artist c d⟩
  · rintro o rfl
    obtain ⟨v, es, hes, hcourse⟩ := hlate (by simp)
    exact ⟨v, es, hes, hcourse.accounts⟩
  · rintro f rfl
    obtain ⟨v, es, hes, hcourse⟩ := hlate (by rintro _ ⟨⟩; exact id)
    cases hcourse with
    | @noChart d₀ d₁ _ done after e _ hdirectory hsplit hdone hfault =>
      rw [hsplit] at hes
      refine ⟨v, done, e, after, d₀, d₁, hes, hdirectory, hdone.pictured.written, hdone.completed,
        hfault, rfl, ?_⟩
      intro format p hp
      obtain ⟨files, -, hpictured, -⟩ := drawChart_pictured artist s _ _ _ _ hfault
      rw [(hdone.pictured.append hpictured).content?_summary s format p hp,
        createDirectories_ok_content? hdirectory]
  · rintro format path e rfl
    obtain ⟨v, es, hes, hcourse⟩ := hlate (by rintro _ ⟨⟩; exact id)
    cases hcourse with
    | noSummary => exact ⟨v, es, hes, rfl⟩

end Run

end BenchReport
