import BenchReport.Proofs.Run.Course

namespace BenchReport.Run

open Disk

theorem prepare_reads_file (s : Settings) (d : Disk) (v : View) (h : prepare s d = .ok v) :
    ∃ content p, d.locate s.input = .ok p ∧ d.content? p = some content := by
  obtain ⟨-, t, ht, -⟩ := (prepare_eq_ok_iff s d v).mp h
  obtain ⟨content, hentry, -⟩ := (loadInput_eq_ok_iff s.input d t).mp ht
  obtain ⟨p, hp, hfile⟩ := (entryAt_eq_ok_iff d s.input _).mp hentry
  exact ⟨content, p, hp, (content?_eq_some_iff d p content).mpr hfile⟩

/-- A run leaves what its input path leads to as it was, unless one of the files that it wrote went
to the same place: then the input holds that file. -/
theorem run_keeps_input (artist : Artist) (s : Settings) (m : Manifest) (d : Disk) :
    (run artist s m d).disk.entryAt s.input = d.entryAt s.input ∨
      ∃ v es files, ToDraw s m d v es ∧ files <+: allPictures artist s v es ++ summaries s v ∧
        Written (d.createDirectories s.outputDir).1 files (run artist s m d).disk ∧
        ∃ f ∈ files, ∃ p, (run artist s m d).disk.locate f.1 = .ok p ∧ d.locate s.input = .ok p ∧
          (run artist s m d).disk.entryAt s.input = .ok (.file f.2) := by
  rcases run_course artist s m d with ⟨f, hf⟩ | ⟨v, es, hes, hcourse⟩
  · rw [run_of_firstFault artist s m d f hf]
    exact .inl rfl
  · have ⟨plan, hprepare, _⟩ := hes
    obtain ⟨content, p, hp, hcontent⟩ := prepare_reads_file s d v hprepare
    obtain ⟨files, hfiles, hwritten⟩ := hcourse.written_prefix
    obtain ⟨hextends, hdirectories⟩ := createDirectories_keeps_files d s.outputDir
    have hplace := (hextends.trans hwritten.extends_of).locate s.input p hp
    have hentry (c : Bytes) (hc : (run artist s m d).disk.content? p = some c) :
        (run artist s m d).disk.entryAt s.input = .ok (.file c) :=
      (entryAt_eq_ok_iff _ s.input _).mpr ⟨p, hplace, (content?_eq_some_iff _ p c).mp hc⟩
    rcases hwritten.content?_cases p with hsame | ⟨f, hf, hlocate, hnew⟩
    · left
      have hbefore := (content?_eq_some_iff d p content).mp hcontent
      rw [hentry content (by rw [hsame, hdirectories, hcontent])]
      exact ((entryAt_eq_ok_iff d s.input _).mpr ⟨p, hp, hbefore⟩).symm
    · right
      exact ⟨v, es, files, hes, hfiles, hwritten, f, hf, p, hlocate, hp, hentry f.2 hnew⟩

theorem run_overwrites_summary :
    ¬ ∀ (artist : Artist) (s : Settings) (m : Manifest) (d : Disk),
      (run artist s m d).disk.entryAt s.input = d.entryAt s.input := by
  intro h
  -- the summary takes the place of the input, which now has a column for the percent
  let rows := Text.toBytes "TreeType,Sortedness,ReadRatio,InsertTime\nA,0.5,0.5,1\n"
  let d := (Disk.bare ["work"]).put ⟨"/work/summary.csv"⟩ (.file rows)
  have hbefore : d.entryAt "summary.csv" = .ok (.file rows) := by decide +kernel
  have hafter : (run ⟨fun _ => .drawn [], fun _ => .drawn []⟩
      { input := "summary.csv", summary := true } .standard d).disk.entryAt "summary.csv" ≠
        .ok (.file rows) := by decide +kernel
  exact hafter ((h _ { input := "summary.csv", summary := true } _ d).trans hbefore)

end BenchReport.Run
