import BenchReport.Proofs.Disk.Places
import BenchReport.Proofs.Run.Course
import Mathlib.Data.List.Flatten
/-!
The files of a chart are named by its stem, unless the stem has what looks like an extension: then
that is cut off, and charts of different stems may come to one file. As long as no stem has one, each
picture of a run stays as the run drew it.
-/

namespace BenchReport.Run

open Disk BenchReport.Path

variable {s : Settings}

theorem append_dotted (stem extension dotted : String) (h : dotted = "." ++ extension) :
    stem ++ dotted = stem ++ "." ++ extension := by
  rw [h, ← String.append_assoc]

theorem withExtension_outputPath_iff (stem extension dotted : String)
    (h : dotted = "." ++ extension) :
    Path.withExtension (s.outputPath stem) extension = s.outputPath (stem ++ dotted) ↔
      EndsInStem stem := by
  rw [append_dotted stem extension dotted h, Settings.outputPath, Settings.outputPath,
    join_append_extension, withExtension_eq_append_iff, endsInStem_join_iff]

def pictureNames (s : Settings) (stem : String) : List String :=
  (stem ++ ".png") :: if s.vectorOutput then [stem ++ ".svg"] else []

def stemFiles (s : Settings) (stem : String) : List Path := (pictureNames s stem).map s.outputPath

theorem chartFiles_eq_iff (stem : String) :
    chartFiles s stem = stemFiles s stem ↔ EndsInStem stem := by
  rw [chartFiles, stemFiles, pictureNames, List.map_cons, List.cons.injEq, rasterPath,
    withExtension_outputPath_iff stem "png" ".png" rfl]
  constructor
  · exact And.left
  · intro h
    rw [vectorPath, (withExtension_outputPath_iff stem "svg" ".svg" rfl).mpr h]
    refine ⟨h, ?_⟩
    split_ifs <;> rfl

structure IsStem (stem : String) : Prop where
  descends : Descends stem
  ends : EndsInStem stem

instance (stem : String) : Decidable (IsStem stem) :=
  decidable_of_iff (Descends stem ∧ EndsInStem stem) ⟨fun h => ⟨h.1, h.2⟩, fun h => ⟨h.1, h.2⟩⟩

def IsPictureEnd (x : String) : Prop := x = ".png" ∨ x = ".svg"

theorem append_picture_inj {stem stem' x y : String} (hx : IsPictureEnd x) (hy : IsPictureEnd y)
    (h : stem ++ x = stem' ++ y) : stem = stem' ∧ x = y := by
  have hlength : x.toList.length = y.toList.length := by
    rcases hx with rfl | rfl <;> rcases hy with rfl | rfl <;> decide
  rw [← String.toList_inj, String.toList_append, String.toList_append] at h
  obtain ⟨hstem, hextension⟩ := List.append_inj' h hlength
  exact ⟨String.toList_inj.mp hstem, String.toList_inj.mp hextension⟩

theorem mem_pictureNames {stem name : String} (h : name ∈ pictureNames s stem) :
    ∃ x, IsPictureEnd x ∧ name = stem ++ x := by
  unfold pictureNames at h
  rcases List.mem_cons.mp h with rfl | hvector
  · exact ⟨".png", .inl rfl, rfl⟩
  · split_ifs at hvector
    · exact ⟨".svg", .inr rfl, List.mem_singleton.mp hvector⟩
    · cases hvector

theorem pictureNames_distinct (stem : String) : (pictureNames s stem).Nodup := by
  have hdistinct : stem ++ ".png" ≠ stem ++ ".svg" := fun h =>
    absurd (append_picture_inj (.inl rfl) (.inr rfl) h).2 (by decide)
  unfold pictureNames
  split_ifs <;> simp [hdistinct]

theorem pictureNames_disjoint {stem stem' : String} (hne : stem ≠ stem') :
    (pictureNames s stem).Disjoint (pictureNames s stem') := by
  intro name hname hname'
  obtain ⟨x, hx, rfl⟩ := mem_pictureNames hname
  obtain ⟨y, hy, hsame⟩ := mem_pictureNames hname'
  exact hne (append_picture_inj hx hy hsame).1

theorem IsStem.descends_pictures {stem : String} (h : IsStem stem) :
    ∀ name ∈ pictureNames s stem, Descends name := by
  intro name hname
  obtain ⟨x, rfl | rfl, rfl⟩ := mem_pictureNames hname
  · rw [append_dotted stem "png" ".png" rfl]
    exact h.descends.append_extension "png" (by decide) (by decide)
  · rw [append_dotted stem "svg" ".svg" rfl]
    exact h.descends.append_extension "svg" (by decide) (by decide)

theorem stemFiles_apart (d : Disk) {stem stem' : String} (h : IsStem stem) (h' : IsStem stem')
    (hne : stem ≠ stem') : ∀ path ∈ stemFiles s stem, ∀ path' ∈ stemFiles s stem', ∀ p,
      d.locate path = .ok p → d.locate path' ≠ .ok p := by
  intro path hpath path' hpath' p hp hp'
  obtain ⟨name, hname, rfl⟩ := List.mem_map.mp hpath
  obtain ⟨name', hname', rfl⟩ := List.mem_map.mp hpath'
  obtain rfl := locate_join_inj d (h.descends_pictures name hname) (h'.descends_pictures name' hname')
    hp hp'
  exact pictureNames_disjoint hne hname hname'

def summaryNames (s : Settings) : List String :=
  if s.summary then ["summary.csv", "summary.json"] else []

theorem mem_summaryNames {name : String} (h : name ∈ summaryNames s) :
    name = "summary.csv" ∨ name = "summary.json" := by
  unfold summaryNames at h
  split_ifs at h
  · simpa using h
  · cases h

def fileNames (s : Settings) (es : List ManifestEntry) : List String :=
  es.flatMap (fun e => pictureNames s e.spec.fileStem) ++ summaryNames s

theorem fileNames_descend (es : List ManifestEntry) (hes : ∀ e ∈ es, IsStem e.spec.fileStem) :
    ∀ name ∈ fileNames s es, Descends name := by
  refine List.forall_mem_append.mpr ⟨fun name hname => ?_, fun name hname => ?_⟩
  · obtain ⟨e, he, hpicture⟩ := List.mem_flatMap.mp hname
    exact (hes e he).descends_pictures name hpicture
  · rcases mem_summaryNames hname with rfl | rfl <;> decide +kernel

theorem picture_ne_summary {stem x : String} (hx : IsPictureEnd x) :
    stem ++ x ≠ "summary.csv" ∧ stem ++ x ≠ "summary.json" := by
  have hlast : (stem ++ x).toList.getLast? = some 'g' := by
    rcases hx with rfl | rfl <;> exact append_getLast? stem _ 'g' rfl
  constructor <;> intro h <;> rw [h] at hlast <;> exact absurd hlast (by decide)

theorem fileNames_distinct (es : List ManifestEntry) (hes : (es.map (·.spec.fileStem)).Nodup) :
    (fileNames s es).Nodup := by
  rw [fileNames, List.nodup_append, List.nodup_flatMap]
  refine ⟨⟨fun e _ => pictureNames_distinct _, ?_⟩, ?_, ?_⟩
  · exact (List.pairwise_map.mp hes).imp pictureNames_disjoint
  · unfold summaryNames
    split_ifs <;> simp
  · intro picture hpicture summary hsummary
    obtain ⟨e, -, hname⟩ := List.mem_flatMap.mp hpicture
    obtain ⟨x, hx, rfl⟩ := mem_pictureNames hname
    rcases mem_summaryNames hsummary with rfl | rfl
    · exact (picture_ne_summary hx).1
    · exact (picture_ne_summary hx).2

section Named

variable (artist : Artist) (s : Settings) (v : View)

def namedAs (name : String) (p : Picture) : List (String × Bytes) := (p.saved.map (name, ·)).toList

def namedPictures (e : ManifestEntry) : List (String × Bytes) :=
  namedAs (e.spec.fileStem ++ ".png") (artist.raster (Chart.build v e.spec)) ++
    if s.vectorOutput then
      namedAs (e.spec.fileStem ++ ".svg") (artist.vector (Chart.build v e.spec))
    else []

def namedSummaries : List (String × Bytes) :=
  if s.summary then
    [("summary.csv", Text.toBytes (Summary.ofView v).toCsv),
      ("summary.json", Text.toBytes (Summary.ofView v).toJson)]
  else []

def named (es : List ManifestEntry) : List (String × Bytes) :=
  es.flatMap (namedPictures artist s v) ++ namedSummaries s v

theorem namedAs_names (name : String) (p : Picture) :
    ((namedAs name p).map (·.1)).Sublist [name] := by
  unfold namedAs
  cases p.saved <;> simp

theorem named_names (es : List ManifestEntry) :
    ((named artist s v es).map (·.1)).Sublist (fileNames s es) := by
  have hpictures (e : ManifestEntry) :
      ((namedPictures artist s v e).map (·.1)).Sublist (pictureNames s e.spec.fileStem) := by
    unfold namedPictures pictureNames
    rw [List.map_append, ← List.singleton_append]
    refine (namedAs_names _ _).append ?_
    split_ifs
    · exact namedAs_names _ _
    · exact List.Sublist.refl _
  have hsummaries : (namedSummaries s v).map (·.1) = summaryNames s := by
    unfold namedSummaries summaryNames
    split_ifs <;> rfl
  rw [named, fileNames, List.map_append, List.map_flatMap, hsummaries]
  exact (List.Sublist.flatMap_right es fun e _ => hpictures e).append (List.Sublist.refl _)

def filedAt (f : String × Bytes) : Path × Bytes := (s.outputPath f.1, f.2)

theorem savedAt_eq_named (name : String) (p : Picture) :
    savedAt (s.outputPath name) p = (namedAs name p).map (filedAt s) := by
  unfold savedAt namedAs
  cases p.saved <;> rfl

theorem pictures_eq_named (e : ManifestEntry) (h : EndsInStem e.spec.fileStem) :
    pictures artist s (Chart.build v e.spec) = (namedPictures artist s v e).map (filedAt s) := by
  have hspec : (Chart.build v e.spec).spec = e.spec := rfl
  rw [pictures, namedPictures, hspec, rasterPath, vectorPath,
    (withExtension_outputPath_iff e.spec.fileStem "png" ".png" rfl).mpr h,
    (withExtension_outputPath_iff e.spec.fileStem "svg" ".svg" rfl).mpr h, List.map_append,
    savedAt_eq_named, savedAt_eq_named]
  split_ifs <;> rfl

theorem files_eq_named (es : List ManifestEntry) (hes : ∀ e ∈ es, EndsInStem e.spec.fileStem) :
    allPictures artist s v es ++ summaries s v = (named artist s v es).map (filedAt s) := by
  have hsummaries : summaries s v = (namedSummaries s v).map (filedAt s) := by
    unfold summaries namedSummaries
    split_ifs <;> simp only [List.map_cons, List.map_nil, filedAt, summaryPath]
  rw [named, List.map_append, List.map_flatMap, hsummaries, allPictures,
    List.flatMap_congr fun e he => pictures_eq_named artist s v e (hes e he)]

end Named

structure Filed (artist : Artist) (s : Settings) (v : View) (d : Disk) (e : ManifestEntry) :
    Prop where
  raster : ∃ content, artist.raster (Chart.build v e.spec) = .drawn content ∧
    d.entryAt (s.outputPath (e.spec.fileStem ++ ".png")) = .ok (.file content)
  vector : s.vectorOutput → ∃ content, artist.vector (Chart.build v e.spec) = .drawn content ∧
    d.entryAt (s.outputPath (e.spec.fileStem ++ ".svg")) = .ok (.file content)

theorem filed_of_named {artist : Artist} {v : View} {d : Disk} {e : ManifestEntry}
    (hcompleted : Completed artist s (Chart.build v e.spec))
    (h : ∀ n ∈ namedPictures artist s v e, d.entryAt (s.outputPath n.1) = .ok (.file n.2)) :
    Filed artist s v d e := by
  have hnamed (name : String) (content : Bytes) :
      (name, content) ∈ namedAs name (.drawn content) := List.mem_singleton_self _
  obtain ⟨⟨content, hdrawn⟩, hvector⟩ := hcompleted
  unfold namedPictures at h
  obtain ⟨hraster, hrest⟩ := List.forall_mem_append.mp h
  rw [hdrawn] at hraster
  refine ⟨⟨content, hdrawn, hraster (_, content) (hnamed _ content)⟩, fun hoption => ?_⟩
  obtain ⟨content', hdrawn'⟩ := hvector hoption
  rw [if_pos hoption, hdrawn'] at hrest
  exact ⟨content', hdrawn', hrest (_, content') (hnamed _ content')⟩

theorem Course.filed {artist : Artist} {v : View} {es : List ManifestEntry} {d d' : Disk}
    {announced : List GeneratedChart} {r : Except RunFault Outcome}
    (h : Course artist s v es d d' announced r) (hdistinct : (es.map (·.spec.fileStem)).Nodup)
    (hstems : ∀ e ∈ es, IsStem e.spec.fileStem) :
    ∀ g ∈ announced, ∃ e ∈ es, g = announcement s e ∧ Filed artist s v d' e := by
  obtain ⟨done, files, hdone, rfl, hcompleted, hpictures, hfiles, hwritten⟩ := h.written_announced
  rw [files_eq_named artist s v es fun e he => (hstems e he).ends] at hfiles
  have hnamed : ∀ f ∈ files, ∃ n ∈ named artist s v es, f = filedAt s n := by
    intro f hf
    obtain ⟨n, hn, rfl⟩ := List.mem_map.mp (hfiles.subset hf)
    exact ⟨n, hn, rfl⟩
  have hsublist := named_names artist s v es
  have hnames := fun name hname => fileNames_descend es hstems name (hsublist.subset hname)
  have hall := (fileNames_distinct es hdistinct).sublist hsublist
  refine List.forall_mem_map.mpr fun e he => ⟨e, hdone.subset he, rfl,
    filed_of_named (hcompleted e he) ?_⟩
  intro n hn
  -- no later picture and no summary has the name of this picture
  apply hwritten.keeps hnamed (List.forall_mem_map.mp hnames) hall
  · exact List.mem_append_left _ (List.mem_flatMap.mpr ⟨e, hdone.subset he, hn⟩)
  · refine hpictures.subset (List.mem_flatMap.mpr ⟨e, he, ?_⟩)
    rw [pictures_eq_named artist s v e (hstems e (hdone.subset he)).ends]
    exact List.mem_map_of_mem hn

theorem ToDraw.sublist {m : Manifest} {d : Disk} {v : View} {es : List ManifestEntry}
    (h : ToDraw s m d v es) : es.Sublist m := by
  obtain ⟨plan, -, hplan, rfl⟩ := h
  unfold Manifest.plan at hplan
  split at hplan
  · cases hplan
  · obtain rfl := Except.ok.inj hplan
    exact List.filter_sublist.trans List.filter_sublist

/-- When the stems of a manifest differ, the files of an announced chart are named by its stem just
when the stem has no extension. When none of the stems has one, the files of different charts are in
different places and each of them is there as it was drawn. -/
theorem charts_filed_by_stem (artist : Artist) (s : Settings) (m : Manifest) (d : Disk)
    (hdistinct : (m.map (·.spec.fileStem)).Nodup) :
    (∀ g ∈ (run artist s m d).announced, g.files = stemFiles s g.fileStem ↔ EndsInStem g.fileStem) ∧
      ((∀ e ∈ m, IsStem e.spec.fileStem) →
        ((run artist s m d).announced.Pairwise fun g g' => ∀ path ∈ g.files, ∀ path' ∈ g'.files,
          ∀ p, (run artist s m d).disk.locate path = .ok p →
            (run artist s m d).disk.locate path' ≠ .ok p) ∧
        ∀ g ∈ (run artist s m d).announced, ∃ v es, ToDraw s m d v es ∧ ∃ e ∈ es,
          g = announcement s e ∧ Filed artist s v (run artist s m d).disk e) := by
  rcases run_course artist s m d with ⟨f, hf⟩ | ⟨v, es, hes, hcourse⟩
  · rw [run_of_firstFault artist s m d f hf]
    simp
  · have hdone := hes.sublist
    generalize run artist s m d = r at hcourse ⊢
    obtain ⟨done, -, hprefix, hannounced, -⟩ := hcourse.written_announced
    have hsublist := hprefix.sublist.trans hdone
    refine ⟨?_, fun hstems => ⟨?_, fun g hg => ?_⟩⟩
    · rw [hannounced]
      exact List.forall_mem_map.mpr fun e _ => chartFiles_eq_iff e.spec.fileStem
    · rw [hannounced, List.pairwise_map]
      have hpairwise := List.pairwise_map.mp (hdistinct.sublist (hsublist.map _))
      refine hpairwise.imp_of_mem fun {e e'} he he' hne => ?_
      have hstem := hstems e (hsublist.subset he)
      have hstem' := hstems e' (hsublist.subset he')
      simp only [announcement, (chartFiles_eq_iff _).mpr hstem.ends,
        (chartFiles_eq_iff _).mpr hstem'.ends]
      exact stemFiles_apart r.disk hstem hstem' hne
    · exact ⟨v, es, hes, hcourse.filed (hdistinct.sublist (hdone.map _))
        (fun e he => hstems e (hdone.subset he)) g hg⟩

def signing : Artist :=
  ⟨fun c => .drawn (Text.toBytes c.spec.fileStem), fun c => .drawn (Text.toBytes c.spec.fileStem)⟩

def insertPlots (stem stem' : String) : Manifest :=
  [stem, stem'].map fun name => Manifest.optional (Manifest.bars Column.insertTime name "" "")

def insertSettings (vectorOutput : Bool) : Settings :=
  { input := "in.csv", outputDir := "out", vectorOutput }

def insertResults : Disk :=
  (Disk.bare ["work"]).put ⟨"/work/in.csv"⟩
    (.file (Text.toBytes "TreeType,Sortedness,ReadRatio,InsertTime\nA,0.5,0.5,1\n"))

theorem insertPlots_filed :
    (run signing (insertSettings true) (insertPlots "insert-v1" "insert-v2")
        insertResults).announced =
      [⟨"insert-v1", ["out/insert-v1.png", "out/insert-v1.svg"]⟩,
        ⟨"insert-v2", ["out/insert-v2.png", "out/insert-v2.svg"]⟩] ∧
    ((insertPlots "insert-v1" "insert-v2").map (·.spec.fileStem)).Nodup ∧
    (∀ e ∈ insertPlots "insert-v1" "insert-v2", IsStem e.spec.fileStem) ∧
    ∀ g ∈ (run signing (insertSettings true) (insertPlots "insert-v1" "insert-v2")
        insertResults).announced, ∃ v es, ToDraw (insertSettings true)
          (insertPlots "insert-v1" "insert-v2") insertResults v es ∧ ∃ e ∈ es,
        g = announcement (insertSettings true) e ∧ Filed signing (insertSettings true) v
          (run signing (insertSettings true) (insertPlots "insert-v1" "insert-v2")
            insertResults).disk e := by
  have hdistinct : ((insertPlots "insert-v1" "insert-v2").map (·.spec.fileStem)).Nodup := by decide
  have hstems : ∀ e ∈ insertPlots "insert-v1" "insert-v2", IsStem e.spec.fileStem := by
    decide +kernel
  exact ⟨by decide +kernel, hdistinct, hstems,
    ((charts_filed_by_stem signing _ _ insertResults hdistinct).2 hstems).2⟩

theorem insertPlots_share_file :
    ¬ (∀ (artist : Artist) (s : Settings) (m : Manifest) (d : Disk),
        (m.map (·.spec.fileStem)).Nodup →
          ∀ g ∈ (run artist s m d).announced, g.files = stemFiles s g.fileStem) ∧
      ¬ ∀ (artist : Artist) (s : Settings) (m : Manifest) (d : Disk),
        (m.map (·.spec.fileStem)).Nodup →
          (run artist s m d).announced.Pairwise fun g g' => ∀ path ∈ g.files, path ∉ g'.files := by
  have hdistinct : ((insertPlots "insert.v1" "insert.v2").map (·.spec.fileStem)).Nodup := by decide
  have hannounced : (run signing (insertSettings false) (insertPlots "insert.v1" "insert.v2")
      insertResults).announced =
        [⟨"insert.v1", ["out/insert.png"]⟩, ⟨"insert.v2", ["out/insert.png"]⟩] := by decide +kernel
  constructor
  · intro h
    have hfiles := h signing (insertSettings false) _ insertResults hdistinct
    rw [hannounced] at hfiles
    exact absurd (hfiles _ List.mem_cons_self) (by decide +kernel)
  · intro h
    have hapart := h signing (insertSettings false) _ insertResults hdistinct
    rw [hannounced] at hapart
    exact absurd hapart (by decide)

end BenchReport.Run
