import BenchReport.CommandLine
import BenchReport.Run

namespace BenchReport

structure Session where
  disk : Disk
  fault : Option RunFault
  output : List String
  events : List Event

def Session.ofRun (s : Settings) (r : RunReport) : Session :=
  let charts := r.announced.map fun c => "Generated plot: " ++ ", ".intercalate c.files
  match r.result with
  | .error f => ⟨r.disk, some f, charts, r.events⟩
  | .ok o =>
    ⟨r.disk, none, charts ++ o.summaryFiles.map ("Generated summary: " ++ ·),
      r.events ++ if o.charts.isEmpty then [.noCharts s.input] else []⟩

namespace CommandLine

def run (artist : Artist) (c : CommandLine) (d : Disk) : Session :=
  let session := Session.ofRun c.settings (BenchReport.run artist c.settings .standard d)
  { session with
    events := .input c.settings.input :: .outputDirectory c.settings.outputDir :: session.events }

end CommandLine

namespace RunFault

def indentedCauses : List String → List String
  | [] => []
  | [cause] => ["    " ++ cause]
  | causes => causes.mapIdx fun i cause => "    " ++ toString i ++ ": " ++ cause

def report (f : RunFault) : List String :=
  match f.messages with
  | [] => []
  | message :: [] => ["Error: " ++ message]
  | message :: causes => ["Error: " ++ message, "", "Caused by:"] ++ indentedCauses causes

end RunFault

def versionLine := "btree-report 0.1.0"

/-- How the program ends: its status, the lines on both of its outputs, and the disk. The lines of
help and of a wrong usage are not part of it. -/
structure Ending where
  status : Nat
  output : List String
  errors : List String
  disk : Disk
  events : List Event

def execute (artist : Artist) (arguments : List String) (env : Environment) (d : Disk) : Ending :=
  match CommandLine.parse arguments env with
  | .error .displayHelp => ⟨0, [], [], d, []⟩
  | .error .displayVersion => ⟨0, [versionLine], [], d, []⟩
  | .error _ => ⟨2, [], [], d, []⟩
  | .ok c =>
    let session := c.run artist d
    match session.fault with
    | none => ⟨0, session.output, [], session.disk, session.events⟩
    | some f => ⟨1, session.output, f.report, session.disk, session.events⟩

end BenchReport
