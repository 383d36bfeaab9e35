import BenchReport.Proofs.Disk.Writing
import BenchReport.Run

namespace BenchReport.Run

open Disk

def filled (v : View) (plan : List ManifestEntry) : List ManifestEntry :=
  plan.filter fun e => !(Chart.build v e.spec).isEmpty

def chartFiles (s : Settings) (stem : String) : List Path :=
  rasterPath s stem :: if s.vectorOutput then [vectorPath s stem] else []

def announcement (s : Settings) (e : ManifestEntry) : GeneratedChart :=
  ⟨e.spec.fileStem, chartFiles s e.spec.fileStem⟩

def savedAt (path : Path) (p : Picture) : List (Path × Bytes) := (p.saved.map (path, ·)).toList

def pictures (artist : Artist) (s : Settings) (c : Chart) : List (Path × Bytes) :=
  savedAt (rasterPath s c.spec.fileStem) (artist.raster c) ++
    if s.vectorOutput then savedAt (vectorPath s c.spec.fileStem) (artist.vector c) else []

def allPictures (artist : Artist) (s : Settings) (v : View) (es : List ManifestEntry) :
    List (Path × Bytes) :=
  es.flatMap fun e => pictures artist s (Chart.build v e.spec)

/-- None of the drawings that the chart needs fails. -/
structure Completed (artist : Artist) (s : Settings) (c : Chart) : Prop where
  raster : ∃ content, artist.raster c = .drawn content
  vector : s.vectorOutput → ∃ content, artist.vector c = .drawn content

theorem savedAt_paths {path : Path} {p : Picture} (h : ∃ content, p = .drawn content) :
    (savedAt path p).map (·.1) = [path] := by
  obtain ⟨content, rfl⟩ := h
  rfl

theorem Completed.paths {artist : Artist} {s : Settings} {c : Chart} (h : Completed artist s c) :
    (pictures artist s c).map (·.1) = chartFiles s c.spec.fileStem := by
  unfold pictures chartFiles
  rw [List.map_append, savedAt_paths h.raster]
  split_ifs with hoption
  · rw [savedAt_paths (h.vector hoption), List.singleton_append]
  · rfl

theorem allPictures_paths {artist : Artist} {s : Settings} {v : View} {es : List ManifestEntry}
    (h : ∀ e ∈ es, Completed artist s (Chart.build v e.spec)) :
    (allPictures artist s v es).map (·.1) = (es.map (announcement s)).flatMap (·.files) := by
  rw [allPictures, List.map_flatMap, List.flatMap_map]
  exact List.flatMap_congr fun e he => (h e he).paths

theorem saveRaster_eq_ok_iff (path : Path) (content : Bytes) (d d' : Disk) :
    saveRaster path content d = .ok d' ↔
      Path.fileName? path.toList ≠ none ∧ d.write path content = .ok d' := by
  unfold saveRaster
  cases Path.fileName? path.toList with
  | none => simp
  | some name => cases d.write path content <;> simp [Except.mapError]

theorem saveVector_eq_ok_iff (path : Path) (content : Bytes) (d d' : Disk) :
    saveVector path content d = .ok d' ↔ d.write path content = .ok d' := by
  unfold saveVector
  cases d.write path content <;> simp [Except.mapError]

def EndsAsPicture (path : Path) : Prop := path.toList.getLast? = some 'g'

theorem chartFiles_end (s : Settings) (stem : String)
    (h : Path.fileName? (rasterPath s stem).toList ≠ none) :
    EndsAsPicture (rasterPath s stem) ∧ EndsAsPicture (vectorPath s stem) :=
  ⟨Path.withExtension_getLast? (s.outputPath stem) "png" "png" 'g' h rfl,
    Path.withExtension_getLast? (s.outputPath stem) "png" "svg" 'g' h rfl⟩

structure Pictured (d : Disk) (files : List (Path × Bytes)) (d' : Disk) : Prop where
  written : Written d files d'
  ends : ∀ f ∈ files, EndsAsPicture f.1

namespace Pictured

theorem nil (d : Disk) : Pictured d [] d := ⟨.nil d, by simp⟩

theorem single {d d' : Disk} {path : Path} {content : Bytes} (hend : EndsAsPicture path)
    (hwrite : d.write path content = .ok d') : Pictured d [(path, content)] d' :=
  ⟨.cons hwrite (.nil d'), by simpa using hend⟩

theorem append {d d₁ d₂ : Disk} {files more : List (Path × Bytes)} (h₁ : Pictured d files d₁)
    (h₂ : Pictured d₁ more d₂) : Pictured d (files ++ more) d₂ :=
  ⟨h₁.written.append h₂.written, List.forall_mem_append.mpr ⟨h₁.ends, h₂.ends⟩⟩

end Pictured

theorem savePicture_pictured {save : Bytes → Disk → Except DrawFault Disk} {path : Path}
    (hsave : ∀ content d d', save content d = .ok d' →
      EndsAsPicture path ∧ d.write path content = .ok d')
    {p : Picture} {d d' : Disk} {r : Except DrawFault Unit} (h : savePicture save p d = (d', r)) :
    ∃ files, files <+: savedAt path p ∧ Pictured d files d' ∧ (r = .ok () →
      files = savedAt path p ∧ ∃ content, p = .drawn content ∧ save content d = .ok d') := by
  unfold savePicture at h
  cases p with
  | drawn content =>
    dsimp only at h
    cases hresult : save content d with
    | error f =>
      rw [hresult] at h
      cases h
      exact ⟨[], List.nil_prefix, .nil d, by simp⟩
    | ok d₁ =>
      rw [hresult] at h
      cases h
      obtain ⟨hend, hwrite⟩ := hsave content d d' hresult
      exact ⟨_, List.prefix_rfl, .single hend hwrite, fun _ => ⟨rfl, content, rfl, hresult⟩⟩
  | failed message saved =>
    cases saved with
    | none =>
      cases h
      exact ⟨[], List.nil_prefix, .nil d, by simp⟩
    | some content =>
      dsimp only at h
      cases hresult : save content d with
      | error f =>
        rw [hresult] at h
        cases h
        exact ⟨[], List.nil_prefix, .nil d, by simp⟩
      | ok d₁ =>
        rw [hresult] at h
        cases h
        obtain ⟨hend, hwrite⟩ := hsave content d d₁ hresult
        exact ⟨_, List.prefix_rfl, .single hend hwrite, by simp⟩

theorem drawChart_pictured (artist : Artist) (s : Settings) (c : Chart) (d d' : Disk)
    (r : Except DrawFault GeneratedChart) (h : drawChart artist s c d = (d', r)) :
    ∃ files, files <+: pictures artist s c ∧ Pictured d files d' ∧ ∀ g, r = .ok g →
      files = pictures artist s c ∧ Completed artist s c ∧
        g = ⟨c.spec.fileStem, chartFiles s c.spec.fileStem⟩ := by
  unfold drawChart at h
  dsimp only at h
  rcases hraster : savePicture (saveRaster (rasterPath s c.spec.fileStem)) (artist.raster c) d
    with ⟨d₁, r₁⟩
  rw [hraster] at h
  have hends (content : Bytes) (d d' : Disk)
      (hsave : saveRaster (rasterPath s c.spec.fileStem) content d = .ok d') :=
    chartFiles_end s c.spec.fileStem ((saveRaster_eq_ok_iff _ content d d').mp hsave).1
  obtain ⟨first, hprefix, hfirst, hdone⟩ := savePicture_pictured (fun content d d' hsave =>
    ⟨(hends content d d' hsave).1, ((saveRaster_eq_ok_iff _ content d d').mp hsave).2⟩) hraster
  cases r₁ with
  | error f =>
    cases h
    exact ⟨first, hprefix.trans (List.prefix_append _ _), hfirst, by simp⟩
  | ok _ =>
    obtain ⟨rfl, content, hdrawn, hsaved⟩ := hdone rfl
    have hvectorEnd := (hends content d d₁ hsaved).2
    by_cases hoption : s.vectorOutput
    · simp only [hoption, if_true] at h
      simp only [pictures, chartFiles, hoption, if_true]
      rcases hvector : savePicture (saveVector (vectorPath s c.spec.fileStem)) (artist.vector c) d₁
        with ⟨d₂, r₂⟩
      rw [hvector] at h
      obtain ⟨second, hprefix, hsecond, hdone⟩ := savePicture_pictured (fun content d d' hsave =>
        ⟨hvectorEnd, (saveVector_eq_ok_iff _ content d d').mp hsave⟩) hvector
      -- the first picture stays, whatever comes of the second
      have hboth := hfirst.append hsecond
      cases r₂ with
      | error f =>
        cases h
        exact ⟨_, (List.prefix_append_right_inj _).mpr hprefix, hboth, by simp⟩
      | ok _ =>
        cases h
        obtain ⟨rfl, content', hdrawn', -⟩ := hdone rfl
        refine ⟨_, List.prefix_rfl, hboth, ?_⟩
        rintro g ⟨⟩
        exact ⟨rfl, ⟨⟨content, hdrawn⟩, fun _ => ⟨content', hdrawn'⟩⟩, rfl⟩
    · simp only [hoption, Bool.false_eq_true, if_false] at h
      simp only [pictures, chartFiles, hoption, Bool.false_eq_true, if_false, List.append_nil]
      cases h
      refine ⟨_, List.prefix_rfl, hfirst, ?_⟩
      rintro g ⟨⟩
      exact ⟨rfl, ⟨⟨content, hdrawn⟩, fun h => absurd h hoption⟩, rfl⟩

structure ChartsDrawn (artist : Artist) (s : Settings) (v : View) (es : List ManifestEntry)
    (d d' : Disk) : Prop where
  pictured : Pictured d (allPictures artist s v es) d'
  completed : ∀ e ∈ es, Completed artist s (Chart.build v e.spec)

namespace ChartsDrawn

variable {artist : Artist} {s : Settings} {v : View}

theorem nil (d : Disk) : ChartsDrawn artist s v [] d d := ⟨.nil d, by simp⟩

theorem cons {e : ManifestEntry} {es : List ManifestEntry} {d d₁ d₂ : Disk}
    (hpictured : Pictured d (pictures artist s (Chart.build v e.spec)) d₁)
    (hcompleted : Completed artist s (Chart.build v e.spec)) (h : ChartsDrawn artist s v es d₁ d₂) :
    ChartsDrawn artist s v (e :: es) d d₂ :=
  ⟨hpictured.append h.pictured, List.forall_mem_cons.mpr ⟨hcompleted, h.completed⟩⟩

end ChartsDrawn

theorem filled_cons (v : View) (e : ManifestEntry) (es : List ManifestEntry) :
    filled v (e :: es) =
      if (Chart.build v e.spec).isEmpty then filled v es else e :: filled v es := by
  unfold filled
  rw [List.filter_cons]
  by_cases h : (Chart.build v e.spec).isEmpty <;> simp [h]

inductive Drawn (artist : Artist) (s : Settings) (v : View) (d : Disk) (es : List ManifestEntry) :
    Disk → List GeneratedChart → Option DrawFault → Prop
  | all {d' : Disk} : ChartsDrawn artist s v es d d' →
    Drawn artist s v d es d' (es.map (announcement s)) none
  | before (done : List ManifestEntry) {after : List ManifestEntry} {e : ManifestEntry}
    {d₁ d₂ : Disk} {f : DrawFault} :
    es = done ++ e :: after → ChartsDrawn artist s v done d d₁ →
    drawChart artist s (Chart.build v e.spec) d₁ = (d₂, .error f) →
    Drawn artist s v d es d₂ (done.map (announcement s)) (some f)

theorem Drawn.cons {artist : Artist} {s : Settings} {v : View} {d d₁ d₂ : Disk} {e : ManifestEntry}
    {es : List ManifestEntry} {charts : List GeneratedChart} {fault : Option DrawFault}
    (hpictured : Pictured d (pictures artist s (Chart.build v e.spec)) d₁)
    (hcompleted : Completed artist s (Chart.build v e.spec))
    (h : Drawn artist s v d₁ es d₂ charts fault) :
    Drawn artist s v d (e :: es) d₂ (announcement s e :: charts) fault := by
  cases h with
  | all hrest => exact .all (.cons hpictured hcompleted hrest)
  | @before done after e' d₃ _ f hes hdone hfault =>
    exact .before (e :: done) (by rw [hes]; rfl) (.cons hpictured hcompleted hdone) hfault

section DrawCharts

-- `rw [drawCharts]` would evaluate whether the chart is empty, so its branches are stated one by one

variable {artist : Artist} {s : Settings} {v : View} {e : ManifestEntry} {es : List ManifestEntry}
  {d d₁ : Disk}

theorem drawCharts_of_isEmpty (h : (Chart.build v e.spec).isEmpty) :
    drawCharts artist s v (e :: es) d =
      { drawCharts artist s v es d with
        events := Chart.buildEvents v e.spec ++
          .chartEmpty e.spec.fileStem e.metric :: (drawCharts artist s v es d).events } :=
  if_pos h

theorem drawCharts_of_error {f : DrawFault} (h : ¬ (Chart.build v e.spec).isEmpty)
    (hdraw : drawChart artist s (Chart.build v e.spec) d = (d₁, .error f)) :
    drawCharts artist s v (e :: es) d = ⟨d₁, [], some f, Chart.buildEvents v e.spec⟩ := by
  refine (if_neg h).trans ?_
  rw [hdraw]

theorem drawCharts_of_ok {g : GeneratedChart} (h : ¬ (Chart.build v e.spec).isEmpty)
    (hdraw : drawChart artist s (Chart.build v e.spec) d = (d₁, .ok g)) :
    drawCharts artist s v (e :: es) d =
      { drawCharts artist s v es d₁ with
        charts := g :: (drawCharts artist s v es d₁).charts
        events := Chart.buildEvents v e.spec ++
          .rendered g.fileStem g.files.length :: (drawCharts artist s v es d₁).events } := by
  refine (if_neg h).trans ?_
  rw [hdraw]

end DrawCharts

theorem drawCharts_drawn (artist : Artist) (s : Settings) (v : View) (plan : List ManifestEntry)
    (d : Disk) :
    Drawn artist s v d (filled v plan) (drawCharts artist s v plan d).disk
      (drawCharts artist s v plan d).charts (drawCharts artist s v plan d).fault := by
  induction plan generalizing d with
  | nil => exact .all (.nil d)
  | cons e es ih =>
    rw [filled_cons]
    by_cases hempty : (Chart.build v e.spec).isEmpty
    · rw [if_pos hempty, drawCharts_of_isEmpty hempty]
      exact ih d
    · rw [if_neg hempty]
      rcases hdraw : drawChart artist s (Chart.build v e.spec) d with ⟨d₁, r⟩
      cases r with
      | error f =>
        rw [drawCharts_of_error hempty hdraw]
        exact .before [] rfl (.nil d) hdraw
      | ok g =>
        obtain ⟨files, -, hpictured, hok⟩ := drawChart_pictured artist s _ d d₁ _ hdraw
        obtain ⟨rfl, hcompleted, rfl⟩ := hok g rfl
        rw [drawCharts_of_ok hempty hdraw]
        exact (ih d₁).cons hpictured hcompleted

end BenchReport.Run
