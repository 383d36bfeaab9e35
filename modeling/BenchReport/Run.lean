import BenchReport.Chart.Panel
import BenchReport.Manifest
import BenchReport.Settings
import BenchReport.Summary.Export
/-!
A report from settings, a manifest and a disk: load, derive, plan, draw, and write the summary. The
disk comes back with what was written, also after a failure. Charts are drawn one after another in
the order of the manifest, so the files and their order only depend on the input and the settings.
-/

namespace BenchReport

/-- What comes of drawing a chart. What there is of a picture may be saved although its drawing has
failed. -/
inductive Picture where
  | drawn (content : Bytes)
  | failed (message : String) (saved : Option Bytes)
deriving DecidableEq

namespace Picture

def saved : Picture → Option Bytes
  | drawn content => some content
  | failed _ saved => saved

end Picture

structure Artist where
  raster : Chart → Picture
  vector : Chart → Picture

inductive DrawFault where
  | undrawn (message : String)
  | unknownFormat
  | raster (e : DiskError)
  | vector (e : DiskError)
deriving DecidableEq

namespace DrawFault

def diskKind : DiskError → String
  | .notFound => "NotFound"
  | .occupied => "AlreadyExists"
  | .notDirectory => "NotADirectory"
  | .isDirectory => "IsADirectory"
  | .nameTooLong => "InvalidFilename"
  | .nulInName => "InvalidInput"

def diskDetails (e : DiskError) : String :=
  match e.code? with
  | some code =>
    "Os \x7b code: " ++ toString code ++ ", kind: " ++ diskKind e ++ ", message: \"" ++ e.reason ++
      "\" \x7d"
  | none => "Error \x7b kind: " ++ diskKind e ++ ", message: \"" ++ e.reason ++ "\" \x7d"

def backendMessage (reason : String) : String := "backend error: Drawing backend error: " ++ reason

def message : DrawFault → String
  | undrawn message => message
  | unknownFormat => backendMessage
    "ImageError(Unsupported(UnsupportedError \x7b format: Unknown, kind: Format(Unknown) \x7d))"
  | raster e => backendMessage ("ImageError(IoError(" ++ diskDetails e ++ "))")
  | vector e => backendMessage e.message

end DrawFault

inductive SummaryFormat where
  | csv
  | json
deriving DecidableEq

namespace SummaryFormat

def name : SummaryFormat → String
  | csv => "CSV"
  | json => "JSON"

end SummaryFormat

inductive RunFault where
  | settings (f : SettingsFault)
  | data (f : DataFault)
  | outputDirectory (dir : Path) (e : DiskError)
  | drawing (f : DrawFault)
  | summary (format : SummaryFormat) (path : Path) (e : DiskError)
deriving DecidableEq

namespace RunFault

def messages : RunFault → List String
  | settings f => [f.message]
  | data (.csv f) => [(DataFault.csv f).message, f.message]
  | data (.disk e) => [(DataFault.disk e).message, e.message]
  | data f => [f.message]
  | outputDirectory dir e => ["Failed to create output directory: " ++ dir, e.message]
  | drawing f => [f.message]
  | summary format path e =>
    ["Failed to export " ++ format.name ++ " summary to: " ++ path, e.message]

end RunFault

structure GeneratedChart where
  fileStem : String
  files : List Path
deriving DecidableEq

structure Outcome where
  charts : List GeneratedChart
  summaryFiles : List Path
deriving DecidableEq

structure RunReport where
  disk : Disk
  announced : List GeneratedChart
  result : Except RunFault Outcome
  events : List Event

namespace Run

def readInput (path : Path) (d : Disk) : Except DataFault Bytes :=
  match d.entryAt path with
  | .error .notFound => .error (.missingInput path)
  | .error e => .error (.disk e)
  -- a directory opens, but cannot be read
  | .ok .directory => .error (.csv (.unreadable .isDirectory))
  | .ok (.file content) => .ok content

def loadInput (path : Path) (d : Disk) : Except DataFault Table := do
  Table.load path (← readInput path d)

def loadEvents (path : Path) (d : Disk) : List Event :=
  match readInput path d with
  | .error _ => []
  | .ok content =>
    (Table.loadWarnings path content).map .rowWithoutValues ++
      match Table.load path content with
      | .error _ => []
      | .ok t => [.loaded t.rows.length t.columns.length path]

def prepareBy {m : Type → Type} [Monad m] (divide : Double → Double → m Double) (s : Settings)
    (d : Disk) : m (Except RunFault View) :=
  match s.validate with
  | .error f => pure (.error (.settings f))
  | .ok () =>
    match loadInput s.input d with
    | .error f => pure (.error (.data f))
    | .ok t => .ok <$> View.deriveBy divide t s.deriveOptions

def prepare (s : Settings) (d : Disk) : Except RunFault View := (prepareBy Double.plainDiv s d).run

def prepareEvents (s : Settings) (d : Disk) : List Event :=
  match s.validate with
  | .error _ => []
  | .ok () =>
    loadEvents s.input d ++
      match loadInput s.input d with
      | .error _ => []
      | .ok t => View.deriveEvents t s.deriveOptions

def rasterPath (s : Settings) (stem : String) : Path := Path.withExtension (s.outputPath stem) "png"

def vectorPath (s : Settings) (stem : String) : Path := Path.withExtension (s.outputPath stem) "svg"

def saveRaster (path : Path) (content : Bytes) (d : Disk) : Except DrawFault Disk :=
  if (Path.fileName? path.toList).isNone then .error .unknownFormat
  else (d.write path content).mapError .raster

def saveVector (path : Path) (content : Bytes) (d : Disk) : Except DrawFault Disk :=
  (d.write path content).mapError .vector

/-- Saves a picture. When its drawing has failed, nobody asks whether the rest of it was saved. -/
def savePicture (save : Bytes → Disk → Except DrawFault Disk) (p : Picture) (d : Disk) :
    Disk × Except DrawFault Unit :=
  match p with
  | .drawn content =>
    match save content d with
    | .ok d' => (d', .ok ())
    | .error f => (d, .error f)
  | .failed message none => (d, .error (.undrawn message))
  | .failed message (some content) =>
    ((save content d).toOption.getD d, .error (.undrawn message))

def drawChart (artist : Artist) (s : Settings) (c : Chart) (d : Disk) :
    Disk × Except DrawFault GeneratedChart :=
  let stem := c.spec.fileStem
  match savePicture (saveRaster (rasterPath s stem)) (artist.raster c) d with
  | (d₁, .error f) => (d₁, .error f)
  | (d₁, .ok ()) =>
    if s.vectorOutput then
      match savePicture (saveVector (vectorPath s stem)) (artist.vector c) d₁ with
      | (d₂, .error f) => (d₂, .error f)
      | (d₂, .ok ()) => (d₂, .ok ⟨stem, [rasterPath s stem, vectorPath s stem]⟩)
    else (d₁, .ok ⟨stem, [rasterPath s stem]⟩)

structure Progress where
  disk : Disk
  charts : List GeneratedChart
  fault : Option DrawFault
  events : List Event

def drawCharts (artist : Artist) (s : Settings) (v : View) : List ManifestEntry → Disk → Progress
  | [], d => ⟨d, [], none, []⟩
  | e :: es, d =>
    let c := Chart.build v e.spec
    let events := Chart.buildEvents v e.spec
    if c.isEmpty then
      let rest := drawCharts artist s v es d
      { rest with events := events ++ .chartEmpty e.spec.fileStem e.metric :: rest.events }
    else
      match drawChart artist s c d with
      | (d', .error f) => ⟨d', [], some f, events⟩
      | (d', .ok chart) =>
        let rest := drawCharts artist s v es d'
        { rest with
          charts := chart :: rest.charts
          events := events ++ .rendered chart.fileStem chart.files.length :: rest.events }

def summaryPath (s : Settings) : SummaryFormat → Path
  | .csv => s.outputPath "summary.csv"
  | .json => s.outputPath "summary.json"

def targets (s : Settings) (m : Manifest) : List Path :=
  m.flatMap (fun e => [rasterPath s e.spec.fileStem, vectorPath s e.spec.fileStem]) ++
    [summaryPath s .csv, summaryPath s .json]

def writeSummary (s : Settings) (v : View) (d : Disk) : Disk × Except RunFault (List Path) :=
  let summary := Summary.ofView v
  let csv := summaryPath s .csv
  let json := summaryPath s .json
  match d.write csv (Text.toBytes summary.toCsv) with
  | .error e => (d, .error (.summary .csv csv e))
  | .ok d₁ =>
    match d₁.write json (Text.toBytes summary.toJson) with
    | .error e => (d₁, .error (.summary .json json e))
    | .ok d₂ => (d₂, .ok [csv, json])

def render (artist : Artist) (s : Settings) (v : View) (plan : List ManifestEntry) (d : Disk) :
    RunReport :=
  match d.createDirectories s.outputDir with
  | (d₁, .error e) => ⟨d₁, [], .error (.outputDirectory s.outputDir e), []⟩
  | (d₁, .ok ()) =>
    let drawn := drawCharts artist s v plan d₁
    match drawn.fault with
    | some f => ⟨drawn.disk, drawn.charts, .error (.drawing f), drawn.events⟩
    | none =>
      if s.summary then
        match writeSummary s v drawn.disk with
        | (d₂, .error f) => ⟨d₂, drawn.charts, .error f, drawn.events⟩
        | (d₂, .ok files) => ⟨d₂, drawn.charts, .ok ⟨drawn.charts, files⟩, drawn.events⟩
      else ⟨drawn.disk, drawn.charts, .ok ⟨drawn.charts, []⟩, drawn.events⟩

end Run

def run (artist : Artist) (s : Settings) (m : Manifest) (d : Disk) : RunReport :=
  let prepared := Run.prepareEvents s d
  match Run.prepare s d with
  | .error f => ⟨d, [], .error f, prepared⟩
  | .ok v =>
    match m.plan v with
    | .error f => ⟨d, [], .error (.data f), prepared⟩
    | .ok plan =>
      let report := Run.render artist s v plan d
      { report with
        events := prepared ++ m.planEvents v ++ .planned plan.length :: report.events }

end BenchReport
